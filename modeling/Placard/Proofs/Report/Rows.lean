import Placard.Proofs.Document.Pieces
import Placard.Report.Row

set_option relaxedAutoImplicit false
set_option autoImplicit false

/-!
# Rows and lines

A report counts rows, which more characters end than a line of a document. This file compares the
rows of a source with the pieces between its line feeds: there is a row for each piece at least, and
no more if only the end of a piece ends a row.

## Main definitions

* `Placard.Report.Unbroken`: no character of a text ends a row.

## Main results

* `Placard.Report.cutRows_terminated_append`: line feeds separate rows.
* `Placard.Report.length_cutRows_terminated`: there is one row for each piece, or there are more.
* `Placard.Report.rowAt_spec`: the row at an offset is the last one that starts no later.
* `Placard.Report.exists_standsBehind`: the row that starts behind whole pieces.
* `Placard.Report.rowAt_starts_line_iff`: when a row is the one of a line.
-/

namespace Placard.Report

open Text

/-- Whether no character of a text ends a row. -/
def Unbroken (cs : List Char) : Prop := ∀ c ∈ cs, endsRow c = false

instance : DecidablePred Unbroken := List.decidableBAll fun c => endsRow c = false

section Cut

variable {c : Char} {cs p q : List Char}

/-- What ends a row is white space. -/
lemma isWhite_of_endsRow (h : endsRow c = true) : isWhite c = true := by
  simp only [endsRow, Bool.or_eq_true, beq_iff_eq] at h
  rcases h with (((((rfl | rfl) | rfl) | rfl) | rfl) | rfl) | rfl <;> decide

/-- A character that ends a row is a piece of its own, if no line feed behind it ends the row
together with it. -/
lemma cutRows_cons_of_ends (hends : endsRow c = true)
    (hpair : ∀ cs', c = '\r' → cs = '\n' :: cs' → False) :
    cutRows (c :: cs) = [c] :: cutRows cs := by
  rw [cutRows.eq_3 c cs hpair, if_pos hends]

/-- Any other character is in one piece with what follows. -/
lemma cutRows_cons_of_not_ends (hends : endsRow c = false) (cs : List Char) :
    cutRows (c :: cs) = (c :: (cutRows cs).headD []) :: (cutRows cs).tail := by
  have hpair : ∀ cs', c = '\r' → cs = '\n' :: cs' → False := by
    rintro cs' rfl -
    cases hends
  rw [cutRows.eq_3 c cs hpair, hends, if_neg Bool.false_ne_true]
  cases cutRows cs <;> rfl

lemma ne_nil_of_mem_cutRows (h : p ∈ cutRows cs) : p ≠ [] := by
  fun_induction cutRows cs with
  | case1 => cases h
  | case2 cs ih =>
    rcases List.mem_cons.mp h with rfl | h
    · exact List.cons_ne_nil _ _
    · exact ih h
  | case3 c cs hpair hends ih =>
    rcases List.mem_cons.mp h with rfl | h
    · exact List.cons_ne_nil _ _
    · exact ih h
  | case4 c cs hpair hends hnil ih =>
    obtain rfl := List.mem_singleton.mp h
    exact List.cons_ne_nil _ _
  | case5 c cs hpair hends piece pieces hcut ih =>
    rcases List.mem_cons.mp h with rfl | h
    · exact List.cons_ne_nil _ _
    · exact ih (hcut ▸ List.mem_cons_of_mem _ h)

lemma cutRows_ne_nil (h : cs ≠ []) : cutRows cs ≠ [] := by
  intro hnil
  have hflatten := flatten_cutRows cs
  rw [hnil, List.flatten_nil] at hflatten
  exact h hflatten.symm

lemma cutRows_cons_append_of_not_ends (hends : endsRow c = false) (hp : p ≠ [])
    (h : cutRows (p ++ q) = cutRows p ++ cutRows q) :
    cutRows (c :: p ++ q) = cutRows (c :: p) ++ cutRows q := by
  obtain ⟨piece, pieces, hcut⟩ := List.exists_cons_of_ne_nil (cutRows_ne_nil hp)
  rw [List.cons_append, cutRows_cons_of_not_ends hends, cutRows_cons_of_not_ends hends, h, hcut]
  rfl

/-- A line feed separates rows. -/
lemma cutRows_newline_append (p q : List Char) :
    cutRows (p ++ ['\n'] ++ q) = cutRows (p ++ ['\n']) ++ cutRows q := by
  fun_induction cutRows p with
  | case1 =>
    have hfeed : ∀ cs, cutRows ('\n' :: cs) = ['\n'] :: cutRows cs :=
      fun cs => cutRows_cons_of_ends rfl fun _ h => absurd h (by decide)
    rw [List.nil_append, List.singleton_append, hfeed, hfeed]
    rfl
  | case2 cs ih =>
    show ['\r', '\n'] :: cutRows (cs ++ ['\n'] ++ q) =
      ['\r', '\n'] :: cutRows (cs ++ ['\n']) ++ cutRows q
    rw [ih]
    rfl
  | case3 c cs hpair hends ih =>
    by_cases hreturn : c = '\r' ∧ cs = []
    · obtain ⟨rfl, rfl⟩ := hreturn
      rfl
    · have hnot : ∀ q' cs', c = '\r' → cs ++ ['\n'] ++ q' = '\n' :: cs' → False := by
        intro q' cs' hc hcs
        cases cs with
        | nil => exact hreturn ⟨hc, rfl⟩
        | cons d ds =>
          obtain ⟨rfl, -⟩ := List.cons.inj hcs
          exact hpair ds hc rfl
      have hself := cutRows_cons_of_ends hends (hnot [])
      rw [List.append_nil] at hself
      rw [List.cons_append, List.cons_append, cutRows_cons_of_ends hends (hnot q), hself, ih]
      rfl
  | case4 c cs hpair hends hnil ih =>
    exact cutRows_cons_append_of_not_ends (Bool.eq_false_iff.mpr hends) (by simp) ih
  | case5 c cs hpair hends piece pieces hcut ih =>
    exact cutRows_cons_append_of_not_ends (Bool.eq_false_iff.mpr hends) (by simp) ih

/-- **Line feeds separate rows.** -/
lemma cutRows_terminated_append (ps : List (List Char)) (q : List Char) :
    cutRows (terminated ps ++ q) = cutRows (terminated ps) ++ cutRows q := by
  induction ps with
  | nil => rfl
  | cons p ps ih =>
    have hcons : terminated (p :: ps) = p ++ ['\n'] ++ terminated ps := List.flatMap_cons
    rw [hcons, List.append_assoc, cutRows_newline_append, ih, cutRows_newline_append,
      List.append_assoc]

lemma stripReturn_cons (h : ¬ (c = '\r' ∧ p = [])) :
    Line.stripReturn (c :: p) = c :: Line.stripReturn p := by
  cases p with
  | nil =>
    have hc : c ≠ '\r' := fun hc => h ⟨hc, rfl⟩
    simp [Line.stripReturn, hc]
  | cons d ds =>
    rw [Line.stripReturn, Line.stripReturn, List.getLast?_cons_cons, List.dropLast_cons_cons]
    split <;> rfl

lemma length_cutRows_newline_pos (p : List Char) : 0 < (cutRows (p ++ ['\n'])).length :=
  List.length_pos_of_ne_nil (cutRows_ne_nil (by simp))

lemma two_le_length_cutRows_of_ends (hends : endsRow c = true) (h : ¬ (c = '\r' ∧ p = [])) :
    2 ≤ (cutRows (c :: p ++ ['\n'])).length := by
  rw [List.cons_append]
  by_cases hpair : ∃ ds, c = '\r' ∧ p = '\n' :: ds
  · obtain ⟨ds, rfl, rfl⟩ := hpair
    have hcut : cutRows ('\r' :: ('\n' :: ds ++ ['\n'])) =
        ['\r', '\n'] :: cutRows (ds ++ ['\n']) := rfl
    have hpos := length_cutRows_newline_pos ds
    rw [hcut, List.length_cons]
    omega
  · have hnot : ∀ cs', c = '\r' → p ++ ['\n'] = '\n' :: cs' → False := by
      intro cs' hc hcs
      cases p with
      | nil => exact h ⟨hc, rfl⟩
      | cons d ds =>
        obtain ⟨rfl, -⟩ := List.cons.inj hcs
        exact hpair ⟨ds, hc, rfl⟩
    have hpos := length_cutRows_newline_pos p
    rw [cutRows_cons_of_ends hends hnot, List.length_cons]
    omega

/-- A piece with a line feed behind it is one row if no other character ends one. -/
lemma length_cutRows_newline_eq_one_iff (p : List Char) :
    (cutRows (p ++ ['\n'])).length = 1 ↔ Unbroken (Line.stripReturn p) := by
  induction p with
  | nil => exact iff_of_true rfl fun _ h => nomatch h
  | cons c p ih =>
    by_cases hreturn : c = '\r' ∧ p = []
    · obtain ⟨rfl, rfl⟩ := hreturn
      exact iff_of_true rfl fun _ h => nomatch h
    rw [stripReturn_cons hreturn, Unbroken, List.forall_mem_cons]
    cases hends : endsRow c with
    | false =>
      have hpos := length_cutRows_newline_pos p
      rw [List.cons_append, cutRows_cons_of_not_ends hends, List.length_cons, List.length_tail]
      refine Iff.trans ?_ (ih.trans (and_iff_right rfl).symm)
      omega
    | true =>
      have htwo := two_le_length_cutRows_of_ends hends hreturn
      exact iff_of_false (by omega) fun h => nomatch h.1

/-- **There is one row for each piece, or there are more.** -/
theorem length_cutRows_terminated (ps : List (List Char)) :
    ps.length ≤ (cutRows (terminated ps)).length ∧
      ((cutRows (terminated ps)).length = ps.length ↔
        ∀ p ∈ ps, Unbroken (Line.stripReturn p)) := by
  induction ps with
  | nil => exact ⟨Nat.le_refl _, iff_of_true rfl fun _ h => nomatch h⟩
  | cons p ps ih =>
    have hcons : terminated (p :: ps) = p ++ ['\n'] ++ terminated ps := List.flatMap_cons
    have hpos := length_cutRows_newline_pos p
    have hone := length_cutRows_newline_eq_one_iff p
    rw [hcons, cutRows_newline_append, List.length_append, List.length_cons, List.forall_mem_cons,
      ← hone, ← ih.2]
    omega

/-- The first row of a text reaches to the first character that ends a row. -/
lemma exists_cutRows_eq_cons (h : cs ≠ []) :
    ∃ ending rest, cutRows cs = (cs.takeWhile (!endsRow ·) ++ ending) :: rest ∧
      ∀ c ∈ ending, endsRow c = true := by
  fun_induction cutRows cs with
  | case1 => exact absurd rfl h
  | case2 cs ih => exact ⟨['\r', '\n'], _, rfl, by simp [endsRow]⟩
  | case3 c cs hpair hends ih =>
    refine ⟨[c], cutRows cs, ?_, List.forall_mem_singleton.mpr hends⟩
    rw [List.takeWhile_cons_of_neg (by simpa using hends), List.nil_append]
  | case4 c cs hpair hends hnil ih =>
    obtain rfl : cs = [] := Decidable.by_contra fun hne => cutRows_ne_nil hne hnil
    exact ⟨[], [], by simp [hends], List.forall_mem_nil _⟩
  | case5 c cs hpair hends piece pieces hcut ih =>
    have hne : cs ≠ [] := by
      rintro rfl
      cases hcut
    obtain ⟨ending, rest, heq, hending⟩ := ih hne
    obtain ⟨rfl, rfl⟩ := List.cons.inj (hcut.symm.trans heq)
    refine ⟨ending, pieces, ?_, hending⟩
    rw [List.takeWhile_cons_of_pos (by simpa using hends), List.cons_append]

/-- The first row of a text shows what trimming leaves of the text, unless that is broken. -/
lemma exists_trimEnd_takeWhile (cs : List Char) :
    ∃ more, trimEnd cs = trimEnd (cs.takeWhile (!endsRow ·)) ++ more ∧
      (more = [] ↔ Unbroken (trimEnd cs)) := by
  obtain ⟨ws, hws, hcs⟩ := exists_trimEnd_append cs
  have hkept : (trimEnd cs).takeWhile (!endsRow ·) ++ (trimEnd cs).dropWhile (!endsRow ·) =
      trimEnd cs := List.takeWhile_append_dropWhile
  by_cases hunbroken : Unbroken (trimEnd cs)
  · have hall : ∀ c ∈ trimEnd cs, (!endsRow c) = true := fun c hc => by rw [hunbroken c hc]; rfl
    have htail : ∀ c ∈ ws.takeWhile (!endsRow ·), isWhite c = true :=
      fun c hc => hws c ((List.takeWhile_prefix _).subset hc)
    have htake : cs.takeWhile (!endsRow ·) = trimEnd cs ++ ws.takeWhile (!endsRow ·) := by
      conv => lhs; rw [← hcs]
      exact List.takeWhile_append_of_pos hall
    refine ⟨[], ?_, iff_of_true rfl hunbroken⟩
    rw [htake, trimEnd_append_white htail, trimEnd_of_last (last_trimEnd cs), List.append_nil]
  · have hdrop : (trimEnd cs).dropWhile (!endsRow ·) ≠ [] := by
      intro hnil
      refine hunbroken fun c hc => ?_
      simpa using List.dropWhile_eq_nil_iff.mp hnil c hc
    have htake : cs.takeWhile (!endsRow ·) = (trimEnd cs).takeWhile (!endsRow ·) := by
      conv => lhs; rw [← hcs]
      rw [List.takeWhile_append, if_neg]
      intro hlength
      have hself := (List.takeWhile_prefix (!endsRow ·)).eq_of_length hlength
      rw [hself] at hkept
      exact hdrop (List.append_right_eq_self.mp hkept)
    obtain ⟨vs, -, hvs⟩ := exists_trimEnd_append ((trimEnd cs).takeWhile (!endsRow ·))
    refine ⟨vs ++ (trimEnd cs).dropWhile (!endsRow ·), ?_, iff_of_false ?_ hunbroken⟩
    · rw [htake, ← List.append_assoc, hvs, hkept]
    · exact List.append_ne_nil_of_right_ne_nil _ hdrop

end Cut

/-! ## Rows of a source -/

section Numbered

variable {number start : Nat} {pieces qs : List (List Char)} {row : Row} {front back : List Row}

lemma length_numberRows (number start : Nat) (pieces : List (List Char)) :
    (numberRows number start pieces).length = pieces.length := by
  induction pieces generalizing number start with
  | nil => rfl
  | cons p ps ih => rw [numberRows, List.length_cons, List.length_cons, ih]

lemma numberRows_append (number start : Nat) (pieces qs : List (List Char)) :
    numberRows number start (pieces ++ qs) =
      numberRows number start pieces ++
        numberRows (number + pieces.length) (start + pieces.flatten.length) qs := by
  induction pieces generalizing number start with
  | nil => rfl
  | cons p ps ih =>
    rw [List.cons_append, numberRows, numberRows, ih, List.cons_append, List.flatten_cons,
      List.length_append, List.length_cons, Nat.add_assoc, Nat.add_comm 1, Nat.add_assoc]

lemma le_of_mem_numberRows (h : row ∈ numberRows number start pieces) :
    number ≤ row.number ∧ start ≤ row.start := by
  induction pieces generalizing number start with
  | nil => cases h
  | cons p ps ih =>
    rcases List.mem_cons.mp h with rfl | h
    · exact ⟨Nat.le_refl _, Nat.le_refl _⟩
    · have hle := ih h
      omega

/-- The row at an index has the number behind it, and starts behind the pieces before it. -/
lemma eq_of_numberRows_eq_append (h : numberRows number start pieces = front ++ row :: back) :
    row.number = number + front.length ∧
      row.start = start + (pieces.take front.length).flatten.length := by
  induction front generalizing number start pieces with
  | nil =>
    cases pieces with
    | nil => cases h
    | cons p ps =>
      obtain ⟨rfl, -⟩ := List.cons.inj h
      exact ⟨rfl, rfl⟩
  | cons first front ih =>
    cases pieces with
    | nil => cases h
    | cons p ps =>
      obtain ⟨-, h⟩ := List.cons.inj h
      obtain ⟨hnumber, hstart⟩ := ih h
      rw [List.length_cons, List.take_succ_cons, List.flatten_cons, List.length_append]
      omega

end Numbered

section At

variable {source tail : List Char} {before rest : List (List Char)} {offset : Nat} {row : Row}
  {front back : List Row}

/-- The last row that starts no later than an offset is the row at it. -/
lemma rowAt_eq (hrows : rows source = front ++ row :: back) (hstart : row.start ≤ offset)
    (hback : ∀ r ∈ back, offset < r.start) : rowAt source offset = row := by
  have hnone : back.filter (·.start ≤ offset) = [] := by
    rw [List.filter_eq_nil_iff]
    exact fun r hr => by simpa using hback r hr
  rw [rowAt, hrows, List.filter_append, List.filter_cons_of_pos (by simpa using hstart), hnone,
    List.getLast?_concat, Option.getD_some]

/-- **The row at an offset is the last one that starts no later.** -/
lemma rowAt_spec (h : source ≠ []) (offset : Nat) :
    ∃ front back, rows source = front ++ rowAt source offset :: back ∧
      (rowAt source offset).start ≤ offset ∧ ∀ r ∈ back, offset < r.start := by
  obtain hnil | ⟨kept, row, hkept⟩ := ((rows source).filter (·.start ≤ offset)).eq_nil_or_concat'
  · -- the first row starts at zero
    obtain ⟨piece, pieces, hcut⟩ := List.exists_cons_of_ne_nil (cutRows_ne_nil h)
    rw [rows, hcut, numberRows, List.filter_cons_of_pos (by simp)] at hnil
    cases hnil
  · have hrow : rowAt source offset = row := by
      rw [rowAt, hkept, List.getLast?_concat, Option.getD_some]
    obtain ⟨front, end', hrows, -, hend⟩ := List.filter_eq_append_iff.mp hkept
    obtain ⟨front', back, rfl, -, hstart, hnone⟩ := List.filter_eq_cons_iff.mp hend
    refine ⟨front ++ front', back, ?_, ?_, fun r hr => ?_⟩
    · rw [hrow, hrows, List.append_assoc]
    · rw [hrow]
      simpa using hstart
    · simpa using List.filter_eq_nil_iff.mp hnone r hr

/-- The row at an offset has the number behind it, and starts behind the pieces before it. -/
lemma exists_index_rowAt (h : source ≠ []) (offset : Nat) :
    ∃ i, (rowAt source offset).number = i + 1 ∧
      (rowAt source offset).start = ((cutRows source).take i).flatten.length ∧
      (rowAt source offset).start ≤ offset := by
  obtain ⟨front, back, hrows, hstart, -⟩ := rowAt_spec h offset
  obtain ⟨hnumber, heq⟩ := eq_of_numberRows_eq_append hrows
  refine ⟨front.length, ?_, ?_, hstart⟩
  · rw [hnumber, Nat.add_comm]
  · rw [heq, Nat.zero_add]

/-- Whether a row stands behind whole pieces of a source, at the start of what follows them. -/
structure Row.StandsBehind (row : Row) (before : List (List Char)) (tail : List Char)
    (rest : List (List Char)) : Prop where
  /-- It is a row of the source, with those that the pieces `rest` make behind it. -/
  rows_eq : ∃ front, rows (terminated before ++ tail) =
    front ++ row :: numberRows (row.number + 1) row.stop rest
  /-- It has the number behind those of all rows of the pieces. -/
  number_eq : row.number = (cutRows (terminated before)).length + 1
  /-- It starts behind the pieces. -/
  start_eq : row.start = (terminated before).length
  /-- Its text reaches to the first character that ends a row. -/
  text_eq : row.text = trimEnd (tail.takeWhile (!endsRow ·))
  /-- It is not empty. -/
  pos : 0 < row.length
  /-- It and the rows behind it make up the rest of the source. -/
  stop_add : row.stop + rest.flatten.length = (terminated before ++ tail).length

/-- Behind whole pieces the rows go on with one. -/
lemma exists_standsBehind (before : List (List Char)) (h : tail ≠ []) :
    ∃ row rest, Row.StandsBehind row before tail rest := by
  obtain ⟨ending, rest, hcut, hending⟩ := exists_cutRows_eq_cons h
  have hfirst : tail.takeWhile (!endsRow ·) ++ ending ≠ [] :=
    ne_nil_of_mem_cutRows (hcut ▸ List.mem_cons_self)
  have hlength := congrArg List.length (flatten_cutRows tail)
  rw [hcut, List.flatten_cons, List.length_append] at hlength
  refine ⟨{ number := (cutRows (terminated before)).length + 1
            start := (terminated before).length
            length := (tail.takeWhile (!endsRow ·) ++ ending).length
            text := trimEnd (tail.takeWhile (!endsRow ·) ++ ending) }, rest,
    ⟨numberRows 1 0 (cutRows (terminated before)), ?_⟩, rfl, rfl, ?_,
    List.length_pos_of_ne_nil hfirst, ?_⟩
  · rw [rows, cutRows_terminated_append, numberRows_append, hcut, numberRows, flatten_cutRows,
      Nat.add_comm 1, Nat.zero_add]
    rfl
  · exact trimEnd_append_white (fun c hc => isWhite_of_endsRow (hending c hc)) _
  · exact (Nat.add_assoc ..).trans ((congrArg _ hlength).trans List.length_append.symm)

section Stands

variable (h : row.StandsBehind before tail rest)

include h

/-- It is the row at each offset in it, and at all later ones if it is the last row. -/
lemma Row.StandsBehind.rowAt_eq (hstart : row.start ≤ offset)
    (hstop : rest = [] ∨ offset < row.stop) :
    rowAt (terminated before ++ tail) offset = row := by
  obtain ⟨front, hrows⟩ := h.rows_eq
  refine Report.rowAt_eq hrows hstart fun r hr => ?_
  obtain ⟨-, hle⟩ := le_of_mem_numberRows hr
  rcases hstop with rfl | hstop
  · cases hr
  · omega

/-- It is the row at the offset behind the pieces. -/
lemma Row.StandsBehind.rowAt_length :
    rowAt (terminated before ++ tail) (terminated before).length = row := by
  have hpos := h.pos
  refine h.rowAt_eq h.start_eq.le (.inr ?_)
  rw [Row.stop, h.start_eq]
  omega

/-- Behind it stands a row with a larger number, if any. -/
lemma Row.StandsBehind.number_lt (hstop : row.stop ≤ offset) (hrest : rest ≠ []) :
    row.number < (rowAt (terminated before ++ tail) offset).number := by
  obtain ⟨front, hrows⟩ := h.rows_eq
  obtain ⟨p, ps, rfl⟩ := List.exists_cons_of_ne_nil hrest
  have hsource : terminated before ++ tail ≠ [] := by
    intro hnil
    have hstop := h.stop_add
    have hpos := h.pos
    rw [hnil, List.length_nil, Row.stop] at hstop
    omega
  obtain ⟨front', back', hrows', -, hback'⟩ := rowAt_spec hsource offset
  obtain ⟨hnumber, -⟩ := eq_of_numberRows_eq_append hrows
  obtain ⟨hnumber', -⟩ := eq_of_numberRows_eq_append hrows'
  -- If the row found were no later one, then the next row would start behind the offset.
  by_contra hle
  have hnext : (front' ++ rowAt (terminated before ++ tail) offset :: back')[front.length + 1]? =
      some ⟨row.number + 1, row.stop, p.length, trimEnd p⟩ := by
    rw [← hrows', hrows, List.getElem?_append_right (by omega), Nat.add_sub_cancel_left]
    rfl
  rw [List.getElem?_append_right (by omega),
    show front.length + 1 - front'.length = front.length - front'.length + 1 by omega,
    List.getElem?_cons_succ] at hnext
  have hlt : offset < row.stop := hback' _ (List.mem_of_getElem? hnext)
  omega

/-- There is a row behind it, unless it is the last one. -/
lemma Row.StandsBehind.length_rows_lt_iff :
    row.number < (rows (terminated before ++ tail)).length ↔ rest ≠ [] := by
  obtain ⟨front, hrows⟩ := h.rows_eq
  obtain ⟨hnumber, -⟩ := eq_of_numberRows_eq_append hrows
  rw [hrows, List.length_append, List.length_cons, length_numberRows, ← List.length_pos_iff]
  omega

end Stands

/-- **When the row at an offset is that of a line.** The row at an offset behind whole pieces, or
further on, starts there and has as many rows before it as there are pieces iff the offset is right
behind the pieces and none of them is broken into more rows. -/
theorem rowAt_starts_line_iff (h : tail ≠ []) (hoffset : (terminated before).length ≤ offset) :
    (rowAt (terminated before ++ tail) offset).number = before.length + 1 ∧
        (rowAt (terminated before ++ tail) offset).start = offset ↔
      offset = (terminated before).length ∧ ∀ p ∈ before, Unbroken (Line.stripReturn p) := by
  obtain ⟨row, rest, hrow⟩ := exists_standsBehind before h
  obtain ⟨hle, hunbroken⟩ := length_cutRows_terminated before
  have hat := hrow.rowAt_length
  rw [← hunbroken]
  constructor
  · rintro ⟨hnumber, hstart⟩
    have hsource : terminated before ++ tail ≠ [] := by simp [h]
    obtain ⟨i, hi, hi', -⟩ := exists_index_rowAt hsource offset
    have hindex : i = before.length := by omega
    have hprefix : ((cutRows (terminated before ++ tail)).take i).flatten.length ≤
        (terminated before).length := by
      rw [hindex, cutRows_terminated_append, List.take_append_of_le_length hle]
      have hsplit := congrArg List.length (flatten_cutRows (terminated before))
      rw [← List.take_append_drop before.length (cutRows (terminated before)),
        List.flatten_append, List.length_append] at hsplit
      omega
    have heq : offset = (terminated before).length := by omega
    refine ⟨heq, ?_⟩
    rw [heq, hat, hrow.number_eq] at hnumber
    omega
  · rintro ⟨rfl, hcount⟩
    rw [hat, hrow.number_eq, hrow.start_eq, hcount]
    exact ⟨rfl, rfl⟩

end At

end Placard.Report
