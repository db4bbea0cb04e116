import Placard.Proofs.Document.Header
import Placard.Proofs.Report.Rows
import Placard.Proofs.Text.Bytes
import Placard.Report

set_option relaxedAutoImplicit false
set_option autoImplicit false

/-!
# Where a report points

The report of a header error is to show the line that the error points at: its number, column one,
and its text. The error gives its bounds in bytes, and the report takes them for numbers of
characters. This file says when the line is shown nevertheless.

## Main definitions

* `Placard.Report.shownLine`: what a report starts with that shows a line.
* `Placard.HeaderError.ShowsLine`: whether the report of an error shows a line.

## Main results

* `Placard.Report.showsLine_iff`: a report shows the row at the offset of the error.
* `Placard.Report.showsLine_line_iff`: when that row is a given line.
* `Placard.report_shows_line_iff`: when the report shows the line that the error is about.
* `Placard.not_report_shows_line`: a line with letters of two bytes is not shown.
-/

namespace Placard

open Text

namespace Report

/-! ## Lines of a report -/

/-- A text as an excerpt shows it, all of it red. -/
def echo (text : List Char) : String := String.join (text.mapIdx (showChar .red))

/-- The arrow in front of the first row of a part that ends in a later one. -/
def lead (source : List Char) (start stop : Nat) : String :=
  if (rowAt source start).number = (rowAt source (max start (stop - 1))).number then ""
  else arrow "╭"

/-- The line of a report with the message. -/
def messageLine : String := paint .red "Error:" ++ " " ++ HeaderError.message

/-- The line of a report with a place. -/
def placeLine (filename : String) (width number column : Nat) : String :=
  spaces (width + 2) ++ paint .gray "╭" ++ paint .gray "─" ++ paint .gray "[" ++
    (filename ++ ":" ++ toString number ++ ":" ++ toString column) ++ paint .gray "]"

/-- The margin of a line with a number. -/
def margin (width number : Nat) : String :=
  " " ++ paint .gray (spaces (width - (toString number).length) ++ toString number ++ " │") ++ " "

/-- What a report starts with that shows a line: the message, the place of the first character of
the line, and its text behind its number. -/
def shownLine (filename : String) (width number : Nat) (before : String) (text : List Char) :
    List String :=
  [messageLine, placeLine filename width number 1, spaces (width + 2) ++ paint .gray "│",
    margin width number ++ before ++ echo text]

end Report

/-- Whether the report of an error shows the line with a number and a text. An arrow stands in front
of the text if the bounds of the error reach to a later row. -/
def HeaderError.ShowsLine (e : HeaderError) (source filename : String) (number : Nat)
    (text : List Char) : Prop :=
  ∃ width rest, e.report source filename =
    String.join ((Report.shownLine filename width number
      (Report.lead source.toList e.start e.stop) text).map (· ++ "\n")) ++ rest

namespace Report

section Characters

variable {a : Char} {xs ys us vs : List Char}

/-- What stands in front of the first occurrence of a character is determined. -/
lemma append_cons_cancel (hxs : a ∉ xs) (hys : a ∉ ys) (h : xs ++ a :: us = ys ++ a :: vs) :
    xs = ys ∧ us = vs := by
  induction xs generalizing ys with
  | nil =>
    cases ys with
    | nil => exact ⟨rfl, (List.cons.inj h).2⟩
    | cons y ys => exact absurd (List.cons.inj h).1 fun hay => hys (hay ▸ List.mem_cons_self)
  | cons x xs ih =>
    cases ys with
    | nil => exact absurd (List.cons.inj h).1.symm fun hax => hxs (hax ▸ List.mem_cons_self)
    | cons y ys =>
      obtain ⟨rfl, htail⟩ := List.cons.inj h
      obtain ⟨rfl, rfl⟩ := ih (List.not_mem_of_not_mem_cons hxs)
        (List.not_mem_of_not_mem_cons hys) htail
      exact ⟨rfl, rfl⟩

lemma toList_times (n : Nat) (text : String) :
    (times n text).toList = (List.replicate n text.toList).flatten := by
  rw [times, String.toList_join, List.flatMap_replicate]

lemma toList_spaces (n : Nat) : (spaces n).toList = List.replicate n ' ' := by
  rw [spaces, toList_times]
  simp

lemma toList_number (n : Nat) : (toString n).toList = Nat.toDigits 10 n := by
  simp

lemma not_mem_number {n : Nat} (ha : a.isDigit = false) : a ∉ (toString n).toList := by
  rw [toList_number]
  intro hmem
  rw [Nat.isDigit_of_mem_toDigits (by decide) (by decide) hmem] at ha
  cases ha

lemma number_inj {m n : Nat} (h : (toString m).toList = (toString n).toList) : m = n := by
  rw [toList_number, toList_number] at h
  calc
    m = Nat.ofDigitChars 10 (Nat.toDigits 10 m) 0 := Nat.ofDigitChars_ten_toDigits.symm
    _ = n := by rw [h, Nat.ofDigitChars_ten_toDigits]

/-- The place that a line says is determined. -/
lemma placeLine_cancel {filename : String} {width width' number number' column column' : Nat}
    (h : (placeLine filename width number column).toList ++ us =
      (placeLine filename width' number' column').toList ++ vs) :
    width = width' ∧ number = number' ∧ column = column' ∧ us = vs := by
  have hlist : ∀ (w n c : Nat) (ws : List Char), (placeLine filename w n c).toList ++ ws =
      List.replicate (w + 2) ' ' ++ '\x1b' :: ("[38;5;246m╭\x1b[0m\x1b[38;5;246m─\x1b[0m".toList ++
        ("\x1b[38;5;246m[\x1b[0m".toList ++ (filename.toList ++ (':' :: ((toString n).toList ++
          ':' :: ((toString c).toList ++ '\x1b' :: ("[38;5;246m]\x1b[0m".toList ++ ws))))))) := by
    intro w n c ws
    simp [placeLine, paint, Color.code, toList_spaces]
  have hescape : ∀ w, '\x1b' ∉ List.replicate w ' ' :=
    fun w hmem => absurd (List.eq_of_mem_replicate hmem) (by decide)
  rw [hlist, hlist] at h
  obtain ⟨hwidth, h⟩ := append_cons_cancel (hescape _) (hescape _) h
  have h := List.append_cancel_left (List.append_cancel_left (List.append_cancel_left h))
  have hcolon : ∀ n : Nat, ':' ∉ (toString n).toList := fun n => not_mem_number (by decide)
  have hescape' : ∀ n : Nat, '\x1b' ∉ (toString n).toList := fun n => not_mem_number (by decide)
  obtain ⟨hnumber, h⟩ := append_cons_cancel (hcolon _) (hcolon _) (List.cons.inj h).2
  obtain ⟨hcolumn, h⟩ := append_cons_cancel (hescape' _) (hescape' _) h
  have hlength := congrArg List.length hwidth
  rw [List.length_replicate, List.length_replicate] at hlength
  exact ⟨by omega, number_inj hnumber, number_inj hcolumn, List.append_cancel_left h⟩

end Characters

/-! ## Texts of rows -/

section Echo

variable {u v : List Char} {row : Row} {start stop : Nat}

lemma toList_paint (color : Color) (text : String) : (paint color text).toList =
    '\x1b' :: ('[' :: color.code.toList ++ 'm' :: text.toList ++ "\x1b[0m".toList) := by
  simp [paint]

/-- Each character is painted. -/
lemma exists_toList_showChar (color : Color) (index : Nat) (c : Char) :
    ∃ cs, (showChar color index c).toList = '\x1b' :: cs := by
  rw [showChar]
  split
  · next hwhite =>
    have hpos : 0 < charColumns index c := by
      rw [charColumns]
      split
      · exact Nat.sub_pos_of_lt (Nat.mod_lt _ (by decide))
      · exact Nat.one_pos
    obtain ⟨n, hn⟩ := Nat.exists_eq_add_of_lt hpos
    rw [hn, toList_times, Nat.zero_add, List.replicate_succ, List.flatten_cons, toList_paint]
    exact ⟨_, rfl⟩
  · exact ⟨_, toList_paint color c.toString⟩

/-- A longer text is shown with more characters, the first of which starts another color. -/
lemma exists_toList_echo_append (u : List Char) (hv : v ≠ []) :
    ∃ cs, (echo (u ++ v)).toList = (echo u).toList ++ '\x1b' :: cs := by
  obtain ⟨c, v, rfl⟩ := List.exists_cons_of_ne_nil hv
  obtain ⟨cs, hcs⟩ := exists_toList_showChar .red (0 + u.length) c
  rw [echo, echo, String.toList_join, String.toList_join, List.mapIdx_append, List.flatMap_append,
    List.mapIdx_cons, List.flatMap_cons, hcs]
  exact ⟨_, rfl⟩

/-- A row is red between the bounds of the error. -/
lemma shown_eq_echo (hstart : start ≤ row.start) (hstop : row.start + row.text.length ≤ stop) :
    row.shown start stop = echo row.text := by
  have hred : ∀ i, i < row.text.length → start ≤ row.start + i ∧ row.start + i < stop := by omega
  rw [Row.shown, echo]
  congr 1
  refine List.ext_getElem (by simp) fun i hi _ => ?_
  rw [List.length_mapIdx] at hi
  rw [List.getElem_mapIdx, List.getElem_mapIdx]
  exact congrArg (showChar · i row.text[i]) (if_pos (hred i hi))

end Echo

/-! ## Rows that are shown -/

section Shown

variable {source : List Char} {start stop : Nat} (filename remark : String)

/-- Whether a part ends behind the row that it starts in, and no other row follows. -/
def Hidden (source : List Char) (start stop : Nat) : Prop :=
  (rowAt source start).number = (rowAt source (max start (stop - 1))).number ∧
    (rowAt source start).stop < stop

instance (source : List Char) (start stop : Nat) : Decidable (Hidden source start stop) :=
  inferInstanceAs (Decidable (_ ∧ _))

/-- The place that an excerpt names. -/
def placeOf (source : List Char) (filename : String) (width start : Nat) : String :=
  placeLine filename width (rowAt source start).number (start - (rowAt source start).start + 1)

/-- The line of an excerpt behind the place and the frame: the row, unless it is hidden. -/
def rowLine (source : List Char) (start stop width : Nat) : String :=
  if Hidden source start stop then unnumbered width "│"
  else
    margin width (rowAt source start).number ++ lead source start stop ++
      (rowAt source start).shown start stop

/-- An excerpt starts with a place, and goes on with the row there. -/
lemma exists_excerpt_eq (source : List Char) (start stop : Nat) :
    ∃ width more, excerpt source filename start stop remark =
      [placeOf source filename width start, spaces (width + 2) ++ paint .gray "│",
        rowLine source start stop width] ++ more := by
  rw [excerpt]
  by_cases hsame : (rowAt source start).number = (rowAt source (max start (stop - 1))).number
  · rw [if_pos hsame, inlineLines]
    by_cases hstop : stop ≤ (rowAt source start).stop
    · have hnot : ¬ Hidden source start stop := fun h => Nat.not_le_of_lt h.2 hstop
      simp only [rowLine, if_neg hnot, lead, if_pos hsame, if_pos hstop, String.append_empty]
      exact ⟨_, _, rfl⟩
    · have hhidden : Hidden source start stop := ⟨hsame, Nat.lt_of_not_le hstop⟩
      simp only [rowLine, if_pos hhidden, if_neg hstop]
      exact ⟨_, _, rfl⟩
  · have hnot : ¬ Hidden source start stop := fun h => hsame h.1
    simp only [rowLine, if_neg hnot, lead, if_neg hsame, spanningLines]
    exact ⟨_, _, rfl⟩

end Shown

section Reports

variable {e : HeaderError} {source filename : String} {number : Nat}
  {text u v us vs : List Char}

lemma toList_lines (lines : List String) :
    (String.join (lines.map (· ++ "\n"))).toList =
      lines.flatMap fun line => line.toList ++ ['\n'] := by
  rw [String.toList_join, List.flatMap_map]
  simp

/-- If the bounds of an error do not fit into the source, then nothing but the message is shown. -/
lemma report_of_not_fits (h : fits source.toList.length e.start e.stop = false)
    (filename : String) : e.report source filename = messageLine ++ "\n" := by
  rw [HeaderError.report]
  rw [h, if_neg Bool.false_ne_true]
  rfl

lemma report_of_fits (h : fits source.toList.length e.start e.stop = true) (filename : String) :
    e.report source filename = String.join ((messageLine ::
      excerpt source.toList filename e.start e.stop HeaderError.remark).map (· ++ "\n")) := by
  rw [HeaderError.report]
  rw [h, if_pos rfl]
  rfl

/-- A report without an excerpt shows no line. -/
lemma not_showsLine_of_not_fits (h : fits source.toList.length e.start e.stop = false) :
    ¬ e.ShowsLine source filename number text := by
  rintro ⟨width, rest, hreport⟩
  rw [report_of_not_fits h] at hreport
  have hlength := congrArg (fun s => s.toList.length) hreport
  simp [shownLine] at hlength

/-- A text behind a line feed is shown by what shows a part of it at its start only if that is all
of it. -/
lemma eq_nil_of_echo_append (h : (echo u).toList ++ '\n' :: us = (echo (u ++ v)).toList ++ vs) :
    v = [] := by
  by_contra hv
  obtain ⟨cs, hcs⟩ := exists_toList_echo_append u hv
  rw [hcs, List.append_assoc] at h
  exact absurd (List.cons.inj (List.append_cancel_left h)).1 (by decide)

/-- **The line that a report shows is the row at the offset of the error.** Take a line whose text
begins with that of this row if the row has its number and starts at the offset. The report shows
the line iff the bounds of the error fit into the source, and the row is not hidden, has the number
of the line, starts at the offset and has all of the text.

**Proof sketch.** What stands in a report can be read off it from the left: the margin ends where
the frame begins, the number of the row where a colon follows, and the column where the frame goes
on (`placeLine_cancel`). Behind the number there is the text of the row, and a longer text would be
shown with more characters (`exists_toList_echo_append`). -/
theorem showsLine_iff (hstart : (rowAt source.toList e.start).start ≤ e.start)
    (htext : (rowAt source.toList e.start).number = number →
      (rowAt source.toList e.start).start = e.start →
        ∃ more, text = (rowAt source.toList e.start).text ++ more ∧
          e.start + (rowAt source.toList e.start).text.length ≤ e.stop) :
    e.ShowsLine source filename number text ↔
      fits source.toList.length e.start e.stop = true ∧
        ¬ Hidden source.toList e.start e.stop ∧
          (rowAt source.toList e.start).number = number ∧
            (rowAt source.toList e.start).start = e.start ∧
              (rowAt source.toList e.start).text = text := by
  obtain ⟨width', more, hexcerpt⟩ :=
    exists_excerpt_eq filename HeaderError.remark source.toList e.start e.stop
  constructor
  · rintro ⟨width, rest, hreport⟩
    have hfits : fits source.toList.length e.start e.stop = true := by
      by_contra hfits
      exact not_showsLine_of_not_fits (Bool.eq_false_iff.mpr hfits) ⟨width, rest, hreport⟩
    have hlines := congrArg String.toList hreport
    rw [report_of_fits hfits, String.toList_append, toList_lines, toList_lines, hexcerpt] at hlines
    simp only [shownLine, List.cons_append, List.nil_append, List.flatMap_cons,
      List.append_assoc] at hlines
    -- Both start with the message. The places determine the numbers, and the rows stand below them.
    have hplace := (List.cons.inj (List.append_cancel_left hlines)).2
    rw [placeOf] at hplace
    obtain ⟨rfl, rfl, hcolumn, hframe⟩ := placeLine_cancel hplace
    have hline := (List.cons.inj (List.append_cancel_left (List.cons.inj hframe).2)).2
    by_cases hhidden : Hidden source.toList e.start e.stop
    · rw [rowLine, if_pos hhidden] at hline
      simp [unnumbered, margin, paint, Color.code] at hline
    · have hrow : (rowAt source.toList e.start).start = e.start := by omega
      obtain ⟨more', rfl, hstop⟩ := htext rfl hrow
      rw [rowLine, if_neg hhidden, shown_eq_echo hrow.ge (by omega)] at hline
      simp only [String.toList_append, List.append_assoc] at hline
      have hecho := List.append_cancel_left (List.append_cancel_left hline)
      rw [eq_nil_of_echo_append hecho, List.append_nil]
      exact ⟨hfits, hhidden, rfl, hrow, rfl⟩
  · rintro ⟨hfits, hhidden, rfl, hrow, rfl⟩
    obtain ⟨-, -, hstop⟩ := htext rfl hrow
    have hcolumn : e.start - (rowAt source.toList e.start).start + 1 = 1 := by omega
    refine ⟨width', String.join (more.map (· ++ "\n")), ?_⟩
    rw [report_of_fits hfits, hexcerpt, rowLine, if_neg hhidden,
      shown_eq_echo hrow.ge (by omega), placeOf, hcolumn, ← List.cons_append, List.map_append,
      String.join_append]
    rfl

end Reports

/-! ## Rows that are lines -/

section Lines

variable {before rest : List (List Char)} {tail piece more : List Char} {row : Row} {stop : Nat}

lemma forall_isAscii_terminated :
    (∀ c ∈ terminated before, IsAscii c) ↔ ∀ p ∈ before, ∀ c ∈ p, IsAscii c := by
  have hfeed : IsAscii '\n' := by decide
  simp only [terminated, List.mem_flatMap, List.mem_append, List.mem_singleton]
  constructor
  · exact fun h p hp c hc => h c ⟨p, hp, .inl hc⟩
  · rintro h c ⟨p, hp, hc | rfl⟩
    · exact h p hp c hc
    · exact hfeed

lemma takeWhile_append_of_newline (piece : List Char) (hmore : ∀ c ∈ more.head?, c = '\n') :
    (piece ++ more).takeWhile (!endsRow ·) = piece.takeWhile (!endsRow ·) := by
  have hnone : more.takeWhile (!endsRow ·) = [] := by
    cases more with
    | nil => rfl
    | cons c cs =>
      obtain rfl := hmore c rfl
      rfl
  rw [List.takeWhile_append, hnone, List.append_nil]
  split
  · next hlength => exact ((List.takeWhile_prefix _).eq_of_length hlength).symm
  · rfl

/-- What trimming leaves of a line is no longer than the line. -/
lemma length_trimEnd_le (piece : List Char) :
    (trimEnd piece).length ≤ (Line.stripReturn piece).length := by
  obtain ⟨ws, hws, hpiece⟩ := exists_stripReturn_append piece
  obtain ⟨vs, -, hvs⟩ := exists_trimEnd_append (Line.stripReturn piece)
  have htrim := trimEnd_append_white hws (Line.stripReturn piece)
  rw [hpiece] at htrim
  have hlength := congrArg List.length hvs
  rw [List.length_append] at hlength
  rw [htrim]
  omega

/-- The row of a line shows the text of the line, or a part of it at its start. -/
lemma exists_text_append (h : row.StandsBehind before (piece ++ more) rest)
    (hmore : ∀ c ∈ more.head?, c = '\n') :
    ∃ vs, trimEnd piece = row.text ++ vs ∧ (vs = [] ↔ Unbroken (trimEnd piece)) := by
  obtain ⟨vs, hvs, hnil⟩ := exists_trimEnd_takeWhile piece
  refine ⟨vs, ?_, hnil⟩
  rw [h.text_eq, takeWhile_append_of_newline piece hmore]
  exact hvs

/-- The row of a line shows all of it unless a character of the line ends a row. -/
lemma text_eq_trimEnd_iff (h : row.StandsBehind before (piece ++ more) rest)
    (hmore : ∀ c ∈ more.head?, c = '\n') :
    row.text = trimEnd piece ↔ Unbroken (trimEnd piece) := by
  obtain ⟨vs, hvs, hnil⟩ := exists_text_append h hmore
  rw [← hnil, hvs]
  constructor
  · exact fun htext => List.self_eq_append_right.mp htext
  · rintro rfl
    rw [List.append_nil]

/-- Only the last row of a source can be hidden, by a part that reaches one character too far. -/
lemma hidden_iff (h : row.StandsBehind before tail rest) (hstart : row.start < stop)
    (hfits : stop ≤ (terminated before ++ tail).length + 1) :
    Hidden (terminated before ++ tail) row.start stop ↔
      rest = [] ∧ stop = (terminated before ++ tail).length + 1 := by
  have hpos := h.pos
  have hlength := h.stop_add
  rw [Hidden, h.start_eq, h.rowAt_length, ← h.start_eq,
    show max row.start (stop - 1) = stop - 1 by omega]
  constructor
  · rintro ⟨hsame, hlt⟩
    have hlast : rest = [] := by
      by_contra hrest
      have hbehind : row.stop ≤ stop - 1 := by omega
      have hlarger := h.number_lt hbehind hrest
      omega
    rw [hlast, List.flatten_nil, List.length_nil] at hlength
    exact ⟨hlast, by omega⟩
  · rintro ⟨rfl, rfl⟩
    rw [List.flatten_nil, List.length_nil] at hlength
    rw [h.rowAt_eq (by omega) (.inl rfl)]
    exact ⟨rfl, by omega⟩

/-- The row of a part is shown iff the part ends in the source, or one character behind it where
other rows follow. -/
lemma fits_and_not_hidden_iff (h : row.StandsBehind before tail rest) (hstart : row.start < stop) :
    fits (terminated before ++ tail).length row.start stop = true ∧
        ¬ Hidden (terminated before ++ tail) row.start stop ↔
      stop ≤ (terminated before ++ tail).length ∨
        stop = (terminated before ++ tail).length + 1 ∧
          row.number < (rows (terminated before ++ tail)).length := by
  have hpos := h.pos
  have hlength := h.stop_add
  rw [Row.stop] at hlength
  have hfits : fits (terminated before ++ tail).length row.start stop = true ↔
      stop ≤ (terminated before ++ tail).length + 1 := by
    rw [fits, decide_eq_true_iff]
    omega
  rw [hfits, h.length_rows_lt_iff]
  constructor
  · rintro ⟨hle, hnot⟩
    rw [hidden_iff h hstart hle, not_and_or] at hnot
    rcases Nat.lt_or_eq_of_le hle with hlt | heq
    · exact .inl (Nat.le_of_lt_succ hlt)
    · exact .inr ⟨heq, hnot.resolve_right (not_not_intro heq)⟩
  · rintro (hle | ⟨heq, hrest⟩)
    · exact ⟨by omega, fun hhidden => by have := (hidden_iff h hstart (by omega)).mp hhidden; omega⟩
    · exact ⟨heq.le, fun hhidden => hrest ((hidden_iff h hstart heq.le).mp hhidden).1⟩

/-- **When a report shows a line**, given the characters above the line and in it.

**Proof sketch.** The report shows the row at the offset of the error (`showsLine_iff`). That is the
row behind the lines above iff the offset is the number of characters in them and they are as many
rows (`rowAt_starts_line_iff`). If it is, then its text is that of the line unless the line is
broken (`text_eq_trimEnd_iff`), and whether it is shown depends on where the error ends
(`fits_and_not_hidden_iff`). -/
theorem showsLine_line_iff {e : HeaderError} {source : String}
    (hsource : source.toList = terminated before ++ (piece ++ more))
    (hmore : ∀ c ∈ more.head?, c = '\n') (hpiece : piece ≠ [])
    (hstart : (terminated before).length ≤ e.start) (hlt : e.start < e.stop)
    (hstop : e.start + (Line.stripReturn piece).length ≤ e.stop) (filename : String) :
    e.ShowsLine source filename (before.length + 1) (trimEnd piece) ↔
      (e.start = (terminated before).length ∧ ∀ p ∈ before, Unbroken (Line.stripReturn p)) ∧
        Unbroken (trimEnd piece) ∧
          (e.stop ≤ source.length ∨
            e.stop = source.length + 1 ∧ before.length + 1 < (rows source.toList).length) := by
  have htail : piece ++ more ≠ [] := List.append_ne_nil_of_left_ne_nil hpiece more
  obtain ⟨row, rest, hrow⟩ := exists_standsBehind before htail
  have hline := rowAt_starts_line_iff htail hstart
  have hat := hrow.rowAt_length
  rw [← hsource] at hline hat
  have hle : (rowAt source.toList e.start).start ≤ e.start := by
    have hne : source.toList ≠ [] := hsource ▸ List.append_ne_nil_of_right_ne_nil _ htail
    obtain ⟨-, -, -, hle, -⟩ := rowAt_spec hne e.start
    exact hle
  have htext : (rowAt source.toList e.start).number = before.length + 1 →
      (rowAt source.toList e.start).start = e.start →
        ∃ vs, trimEnd piece = (rowAt source.toList e.start).text ++ vs ∧
          e.start + (rowAt source.toList e.start).text.length ≤ e.stop := by
    intro hnumber hfirst
    obtain ⟨vs, hvs, -⟩ := exists_text_append hrow hmore
    have hlength := congrArg List.length hvs
    have htrim := length_trimEnd_le piece
    rw [List.length_append] at hlength
    rw [(hline.mp ⟨hnumber, hfirst⟩).1, hat]
    exact ⟨vs, hvs, by omega⟩
  rw [showsLine_iff hle htext]
  by_cases hbefore : e.start = (terminated before).length ∧
      ∀ p ∈ before, Unbroken (Line.stripReturn p)
  · obtain ⟨hnumber, hfirst⟩ := hline.mpr hbefore
    have hshort : row.start < e.stop := by
      rw [hrow.start_eq]
      omega
    have hshown := fits_and_not_hidden_iff hrow hshort
    rw [hbefore.1, hat] at hnumber hfirst ⊢
    rw [← hsource, hfirst, hnumber, String.length_toList] at hshown
    rw [← hshown, text_eq_trimEnd_iff hrow hmore, String.length_toList]
    constructor
    · rintro ⟨hfits, hhidden, -, -, hunbroken⟩
      exact ⟨⟨rfl, hbefore.2⟩, hunbroken, hfits, hhidden⟩
    · rintro ⟨-, hunbroken, hfits, hhidden⟩
      exact ⟨hfits, hhidden, hnumber, hfirst, hunbroken⟩
  · -- The row at the offset is another one, or has another number.
    refine iff_of_false (fun hshows => hbefore ?_) fun hshown => hbefore hshown.1
    exact hline.mp ⟨hshows.2.2.1, hshows.2.2.2.1⟩

end Lines

end Report

open Report

section Header

variable {source : String} {e : HeaderError} {before behind : List (List Char)} {piece : List Char}

lemma exists_error_of_isNone (source : String) (h : (parse source).toOption.isNone = true) :
    ∃ e, parse source = .error e := by
  cases hparse : parse source with
  | ok d =>
    rw [hparse] at h
    cases h
  | error e => exact ⟨e, rfl⟩

/-- An error about a line is about one character of it at least. -/
lemma FirstPiece.start_lt_stop (h : FirstPiece source before piece behind)
    (hparse : parse source = .error e) : e.start < e.stop := by
  obtain ⟨-, hstop⟩ := h.bounds_of_parse hparse
  obtain ⟨ws, hws, hpiece⟩ := exists_stripReturn_append piece
  have hpos : utf8Length (Line.stripReturn piece) ≠ 0 := by
    intro hzero
    rw [utf8Length_eq_zero_iff.mp hzero, List.nil_append] at hpiece
    exact h.not_blank (hpiece ▸ hws)
  omega

/-- **When the report shows the line that the error is about.** The error gives the line in bytes,
and the report takes them for characters. The report shows the line, with its number and column one,
iff all characters above it are below U+0080, no character above it or in it ends a row but not a
line, and the bytes of the line end in the source if they are counted as characters. They may end
one character behind it if the line is not the last row. They do end in the source if it has
characters below U+0080 only; if they end further on, then the report is the message alone.

**Proof sketch.** The error has the bounds of the line (`FirstPiece.bounds_of_parse`), and a text
has as many bytes as characters iff these are below U+0080 (`utf8Length_eq_length_iff`). So the
offset of the error is where the line starts iff the characters above the line are, and the rest is
`Report.showsLine_line_iff`. -/
theorem report_shows_line_iff (hparse : parse source = .error e)
    (h : FirstPiece source before piece behind) (filename : String) :
    e.start = utf8Length (terminated before) ∧
      e.stop = e.start + utf8Length (Line.stripReturn piece) ∧
      (e.ShowsLine source filename (before.length + 1) (trimEnd piece) ↔
        (∀ p ∈ before, (∀ c ∈ p, IsAscii c) ∧ Unbroken (Line.stripReturn p)) ∧
          Unbroken (trimEnd piece) ∧
            (e.stop ≤ source.length ∨
              e.stop = source.length + 1 ∧ before.length + 1 < (rows source.toList).length)) ∧
      ((∀ c ∈ source.toList, IsAscii c) → e.stop ≤ source.length) ∧
      (source.length + 1 < e.stop → e.report source filename = messageLine ++ "\n") := by
  obtain ⟨hstart, hstop⟩ := h.bounds_of_parse hparse
  obtain ⟨more, hsource, hmore⟩ := exists_toList_eq h.pieces_eq
  have hlt := h.start_lt_stop hparse
  have hpiece : piece ≠ [] := by
    rintro rfl
    exact h.not_blank fun c hc => nomatch hc
  have habove := length_le_utf8Length (terminated before)
  have hinside := length_le_utf8Length (Line.stripReturn piece)
  have hascii : e.start = (terminated before).length ↔ ∀ p ∈ before, ∀ c ∈ p, IsAscii c := by
    rw [hstart, utf8Length_eq_length_iff, forall_isAscii_terminated]
  refine ⟨hstart, hstop, ?_, fun hall => ?_, fun hlong => ?_⟩
  · rw [showsLine_line_iff hsource hmore hpiece (by omega) hlt (by omega) filename, forall₂_and,
      ← hascii]
  · obtain ⟨ws, -, hws⟩ := exists_stripReturn_append piece
    rw [hsource, ← hws] at hall
    simp only [List.forall_mem_append] at hall
    have hlength := congrArg List.length hsource
    rw [← hws] at hlength
    simp only [List.length_append, String.length_toList] at hlength
    have habove := utf8Length_eq_length_iff.mpr hall.1
    have hinside := utf8Length_eq_length_iff.mpr hall.2.1.1
    omega
  · refine report_of_not_fits ?_ filename
    rw [fits, decide_eq_false_iff_not, String.length_toList]
    omega

/-- The second line, with a tab, is shown. -/
theorem report_shows_line_below_blank :
    FirstPiece " \n\tgraphic x\n" [[' ']] "\tgraphic x".toList [[]] ∧
      ∃ e, parse " \n\tgraphic x\n" = .error e ∧
        e.ShowsLine " \n\tgraphic x\n" "input.ig" 2 "\tgraphic x".toList := by
  have hfirst : FirstPiece " \n\tgraphic x\n" [[' ']] "\tgraphic x".toList [[]] := by
    constructor <;> decide +kernel
  have hall : ∀ c ∈ " \n\tgraphic x\n".toList, IsAscii c :=
    utf8Length_eq_length_iff.mp (by decide)
  have habove : ∀ p ∈ [[' ']], (∀ c ∈ p, IsAscii c) ∧ Unbroken (Line.stripReturn p) :=
    List.forall_mem_singleton.mpr ⟨utf8Length_eq_length_iff.mp rfl, by decide⟩
  obtain ⟨e, hparse⟩ := exists_error_of_isNone " \n\tgraphic x\n" (by decide +kernel)
  obtain ⟨-, -, hshows, hascii, -⟩ := report_shows_line_iff hparse hfirst "input.ig"
  exact ⟨hfirst, e, hparse, hshows.mpr ⟨habove, by decide +kernel, .inl (hascii hall)⟩⟩

/-- **A line with letters of two bytes is not shown.** It has five characters and seven bytes, and
the report is the message alone. -/
theorem not_report_shows_line :
    FirstPiece "Grüße" [] "Grüße".toList [] ∧
      ∃ e, parse "Grüße" = .error e ∧ e.report "Grüße" "input.ig" = messageLine ++ "\n" ∧
        ¬ e.ShowsLine "Grüße" "input.ig" 1 "Grüße".toList := by
  have hfirst : FirstPiece "Grüße" [] "Grüße".toList [] := by
    constructor <;> decide +kernel
  obtain ⟨e, hparse⟩ := exists_error_of_isNone "Grüße" (by decide +kernel)
  obtain ⟨hstart, hstop⟩ := hfirst.bounds_of_parse hparse
  have hfits : fits "Grüße".toList.length e.start e.stop = false := by
    rw [hstop, hstart]
    decide
  exact ⟨hfirst, e, hparse, report_of_not_fits hfits _, not_showsLine_of_not_fits hfits⟩

end Header

end Placard
