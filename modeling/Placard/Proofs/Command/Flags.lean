import Mathlib.Data.List.Infix
import Mathlib.Tactic.Lemma
import Placard.Command.Invocation

set_option relaxedAutoImplicit false
set_option autoImplicit false

/-!
# One more flag

Arguments are read one after another into a command line that starts out empty. A flag changes
nothing but the flags, and no other argument looks at them. So a command line that lacks a flag is
accepted with it too, and asks for the same otherwise.

## Main definitions

* `Placard.Invocation.Adds`: a command line is another one with a flag more.
* `Placard.Invocation.withFlag`: a command line with a flag in front of all others.

## Main results

* `Placard.Invocation.addArguments_withFlag`: reading only adds flags, and goes the same way with a
  flag more.
* `Placard.Invocation.parse_flag_cons`: a flag can be put in front of an accepted command line.
-/

namespace Placard

/-- A computation that goes on gives a result iff both of its parts do. -/
lemma bind_eq_ok_iff {ε α β : Type} {x : Except ε α} {f : α → Except ε β} {b : β} :
    (x >>= f) = .ok b ↔ ∃ a, x = .ok a ∧ f a = .ok b := by
  cases x with
  | error e => exact iff_of_false nofun nofun
  | ok a => exact ⟨fun h => ⟨a, rfl, h⟩, fun ⟨_, ha, h⟩ => Except.ok.inj ha ▸ h⟩

/-- How a flag is written in full. -/
def Flag.argument : Flag → String
  | .animations => "--animations"
  | .fragment => "--fragment"
  | .dataUrl => "--data-url"
  | .lint => "--lint"
  | .templates => "--templates"
  | .grammar => "--grammar"
  | .debug => "--debug"

namespace Invocation

/-- Whether a command line is another one with a flag more, which that one lacks. -/
structure Adds (f : Flag) (i i' : Invocation) : Prop where
  /-- The input file is the same. -/
  input : i'.input = i.input
  /-- So is the mode. -/
  theme : i'.theme = i.theme
  /-- So is the color scheme. -/
  scheme : i'.scheme = i.scheme
  /-- So is the file of the stylesheet. -/
  stylesheet : i'.stylesheet = i.stylesheet
  /-- The flag is new. -/
  lacks : i.has f = false
  /-- It is the only one. -/
  flags : ∀ g, i'.has g = (i.has g || g == f)

/-- The command line with a flag in front of all others. -/
def withFlag (i : Invocation) (f : Flag) : Invocation := { i with flags := f :: i.flags }

section Adding

variable {f g : Flag} {i k : Invocation} {s : Setting} {value text : List Char} {name : String}
  {waiting : Option Setting}

lemma has_iff : i.has f = true ↔ f ∈ i.flags := List.contains_iff_mem

lemma adds_withFlag (h : f ∉ i.flags) : i.Adds f (i.withFlag f) where
  input := rfl
  theme := rfl
  scheme := rfl
  stylesheet := rfl
  lacks := Bool.eq_false_iff.mpr (mt has_iff.mp h)
  flags g := by
    rw [has, withFlag, List.contains_cons, Bool.or_comm]
    rfl

/-- The other flags are the same. -/
lemma Adds.has_eq {i' : Invocation} (h : i.Adds f i') (hg : g ≠ f) : i'.has g = i.has g := by
  rw [h.flags g, beq_eq_false_iff_ne.mpr hg, Bool.or_false]

/-! ## A single option -/

lemma addFlag_eq_ok_iff :
    i.addFlag g = .ok k ↔ g ∉ i.flags ∧ k = { i with flags := i.flags ++ [g] } := by
  rw [addFlag]
  by_cases h : g ∈ i.flags
  · rw [if_pos (has_iff.mpr h)]
    exact iff_of_false nofun fun hk => hk.1 h
  · rw [if_neg (mt has_iff.mp h), Except.ok.injEq, eq_comm]
    exact (and_iff_right h).symm

/-- A flag is added in the same way with another one in front. -/
lemma addFlag_withFlag (h : i.addFlag g = .ok k) :
    i.flags <+: k.flags ∧ (f ∉ k.flags → (i.withFlag f).addFlag g = .ok (k.withFlag f)) := by
  obtain ⟨hg, rfl⟩ := addFlag_eq_ok_iff.mp h
  refine ⟨List.prefix_append _ _, fun hf => addFlag_eq_ok_iff.mpr ⟨?_, rfl⟩⟩
  have hne : g ≠ f := by
    rintro rfl
    exact hf (List.mem_append_right _ List.mem_cons_self)
  exact List.not_mem_cons_of_ne_of_not_mem hne hg

/-- An option with a value does not look at the flags. -/
lemma addSetting_withFlag (h : i.addSetting s value = .ok k) :
    k.flags = i.flags ∧ (i.withFlag f).addSetting s value = .ok (k.withFlag f) := by
  cases s
  all_goals
    obtain ⟨a, ha, hk⟩ := bind_eq_ok_iff.mp h
    obtain rfl := Except.ok.inj hk
    exact ⟨rfl, bind_eq_ok_iff.mpr ⟨a, ha, rfl⟩⟩

/-- Nor does one that has its value in the same argument. -/
lemma addSetting_done_withFlag
    (h : (do .ok (← i.addSetting s value, none) : Except Halt (Invocation × Option Setting)) =
      .ok (k, waiting)) :
    i.flags <+: k.flags ∧ (do .ok (← (i.withFlag f).addSetting s value, none) :
      Except Halt (Invocation × Option Setting)) = .ok (k.withFlag f, waiting) := by
  obtain ⟨j, hj, hk⟩ := bind_eq_ok_iff.mp h
  obtain ⟨rfl, rfl⟩ := Prod.mk.inj (Except.ok.inj hk)
  obtain ⟨hflags, hsame⟩ := addSetting_withFlag (f := f) hj
  exact ⟨hflags ▸ List.prefix_rfl, bind_eq_ok_iff.mpr ⟨_, hsame, rfl⟩⟩

/-- Nor does the input file. -/
lemma addInput_withFlag (h : i.addInput name = .ok k) :
    k.flags = i.flags ∧ (i.withFlag f).addInput name = .ok (k.withFlag f) := by
  have hinput : (i.withFlag f).input = i.input := rfl
  rw [addInput] at h ⊢
  rw [hinput]
  cases hi : i.input with
  | some _ =>
    rw [hi] at h
    cases h
  | none =>
    rw [hi] at h
    obtain ⟨a, ha, hk⟩ := bind_eq_ok_iff.mp h
    obtain rfl := Except.ok.inj hk
    exact ⟨rfl, bind_eq_ok_iff.mpr ⟨a, ha, rfl⟩⟩

/-! ## One argument -/

/-- The value of an option may stand behind its letter, with or without an equals sign. -/
lemma addLetters_of_setting {c : Char} {letters : List Char}
    (h : Switch.ofLetter? c = some (.setting s)) :
    i.addLetters (c :: letters) =
      match letters with
      | [] => .ok (i, some s)
      | c' :: rest =>
        let value := if c' = '=' then rest else c' :: rest
        (do .ok (← i.addSetting s value, none)) := by
  rw [addLetters, h]
  match letters with
  | [] => rfl
  | c' :: rest =>
    by_cases hc : c' = '='
    · subst hc
      rfl
    · dsimp only
      rw [if_neg hc]
      split
      · cases ‹_ :: _ = []›
      · exact absurd (List.cons.inj ‹_›).1 hc
      · rfl

/-- Options by their letters are read in the same way. -/
lemma addLetters_withFlag {letters : List Char} (h : i.addLetters letters = .ok (k, waiting)) :
    i.flags <+: k.flags ∧
      (f ∉ k.flags → (i.withFlag f).addLetters letters = .ok (k.withFlag f, waiting)) := by
  induction letters generalizing i with
  | nil =>
    obtain ⟨rfl, rfl⟩ := Prod.mk.inj (Except.ok.inj h)
    exact ⟨List.prefix_rfl, fun _ => rfl⟩
  | cons c letters ih =>
    cases hswitch : Switch.ofLetter? c with
    | none =>
      rw [addLetters, hswitch] at h
      cases h
    | some switch =>
      cases switch with
      | help =>
        rw [addLetters, hswitch] at h
        cases h
      | flag g =>
        rw [addLetters, hswitch] at h ⊢
        obtain ⟨j, hj, hk⟩ := bind_eq_ok_iff.mp h
        obtain ⟨hle, hsame⟩ := addFlag_withFlag (f := f) hj
        obtain ⟨hle', hsame'⟩ := ih hk
        refine ⟨hle.trans hle', fun hf => bind_eq_ok_iff.mpr ⟨_, ?_, hsame' hf⟩⟩
        exact hsame fun hmem => hf (hle'.subset hmem)
      | setting s =>
        rw [addLetters_of_setting hswitch] at h ⊢
        match letters with
        | [] =>
          obtain ⟨rfl, rfl⟩ := Prod.mk.inj (Except.ok.inj h)
          exact ⟨List.prefix_rfl, fun _ => rfl⟩
        | c :: letters =>
          obtain ⟨hle, hsame⟩ := addSetting_done_withFlag (f := f) h
          exact ⟨hle, fun _ => hsame⟩

/-- So is an option by its name. -/
lemma addName_withFlag {name : List Char} (h : i.addName name = .ok (k, waiting)) :
    i.flags <+: k.flags ∧
      (f ∉ k.flags → (i.withFlag f).addName name = .ok (k.withFlag f, waiting)) := by
  rw [addName] at h ⊢
  generalize Switch.ofName? (name.takeWhile (· != '=')) = switch at h ⊢
  generalize (name.dropWhile (· != '=')).tail? = value? at h ⊢
  match switch, value? with
  | none, _ => cases h
  | some (.setting s), none =>
    obtain ⟨rfl, rfl⟩ := Prod.mk.inj (Except.ok.inj h)
    exact ⟨List.prefix_rfl, fun _ => rfl⟩
  | some (.setting s), some value =>
    obtain ⟨hle, hsame⟩ := addSetting_done_withFlag (f := f) h
    exact ⟨hle, fun _ => hsame⟩
  | some (.flag g), none =>
    obtain ⟨j, hj, hk⟩ := bind_eq_ok_iff.mp h
    obtain ⟨rfl, rfl⟩ := Prod.mk.inj (Except.ok.inj hk)
    obtain ⟨hle, hsame⟩ := addFlag_withFlag (f := f) hj
    exact ⟨hle, fun hf => bind_eq_ok_iff.mpr ⟨_, hsame hf, rfl⟩⟩
  | some .help, none => cases h
  | some (.flag _), some _ => cases h
  | some .help, some _ => cases h

/-! ## All arguments -/

/-- Behind the end of the options there are input files only. -/
lemma addInputs_withFlag {names : List String} (h : names.foldlM addInput i = .ok k) :
    k.flags = i.flags ∧ names.foldlM addInput (i.withFlag f) = .ok (k.withFlag f) := by
  induction names generalizing i with
  | nil =>
    obtain rfl := Except.ok.inj h
    exact ⟨rfl, rfl⟩
  | cons name names ih =>
    rw [List.foldlM_cons] at h ⊢
    obtain ⟨j, hj, hk⟩ := bind_eq_ok_iff.mp h
    obtain ⟨hflags, hsame⟩ := addInput_withFlag (f := f) hj
    obtain ⟨hflags', hrest⟩ := ih hk
    exact ⟨hflags'.trans hflags, bind_eq_ok_iff.mpr ⟨_, hsame, hrest⟩⟩

mutual

/-- **Arguments are read in the same way with a flag more**, unless they have it themselves. -/
lemma addArguments_withFlag {i : Invocation} {texts : List String}
    (h : i.addArguments texts = .ok k) :
    i.flags <+: k.flags ∧
      (f ∉ k.flags → (i.withFlag f).addArguments texts = .ok (k.withFlag f)) := by
  match texts with
  | [] =>
    rw [addArguments] at h
    obtain rfl := Except.ok.inj h
    exact ⟨List.prefix_rfl, fun _ => by rw [addArguments]⟩
  | text :: texts =>
    rw [addArguments] at h ⊢
    generalize Argument.ofText text = argument at h ⊢
    match argument with
    | .optionsEnd =>
      obtain ⟨hflags, hsame⟩ := addInputs_withFlag (f := f) h
      exact ⟨hflags ▸ List.prefix_rfl, fun _ => hsame⟩
    | .plain =>
      obtain ⟨j, hj, hk⟩ := bind_eq_ok_iff.mp h
      obtain ⟨hflags, hsame⟩ := addInput_withFlag (f := f) hj
      obtain ⟨hle, hrest⟩ := addArguments_withFlag hk
      exact ⟨hflags ▸ hle, fun hf => bind_eq_ok_iff.mpr ⟨_, hsame, hrest hf⟩⟩
    | .named rest =>
      obtain ⟨⟨j, waiting⟩, hj, hk⟩ := bind_eq_ok_iff.mp h
      obtain ⟨hle, hsame⟩ := addName_withFlag (f := f) hj
      obtain ⟨hle', hrest⟩ := addWaiting_withFlag hk
      refine ⟨hle.trans hle', fun hf => bind_eq_ok_iff.mpr ⟨_, hsame ?_, hrest hf⟩⟩
      exact fun hmem => hf (hle'.subset hmem)
    | .lettered rest =>
      obtain ⟨⟨j, waiting⟩, hj, hk⟩ := bind_eq_ok_iff.mp h
      obtain ⟨hle, hsame⟩ := addLetters_withFlag (f := f) hj
      obtain ⟨hle', hrest⟩ := addWaiting_withFlag hk
      refine ⟨hle.trans hle', fun hf => bind_eq_ok_iff.mpr ⟨_, hsame ?_, hrest hf⟩⟩
      exact fun hmem => hf (hle'.subset hmem)

lemma addWaiting_withFlag {i : Invocation} {waiting : Option Setting} {texts : List String}
    (h : i.addWaiting waiting texts = .ok k) :
    i.flags <+: k.flags ∧
      (f ∉ k.flags → (i.withFlag f).addWaiting waiting texts = .ok (k.withFlag f)) := by
  match waiting, texts with
  | none, texts =>
    rw [addWaiting] at h ⊢
    exact addArguments_withFlag h
  | some _, [] =>
    rw [addWaiting] at h
    cases h
  | some s, text :: texts =>
    rw [addWaiting] at h ⊢
    generalize Argument.ofText text = argument at h ⊢
    match argument with
    | .plain =>
      obtain ⟨j, hj, hk⟩ := bind_eq_ok_iff.mp h
      obtain ⟨hflags, hsame⟩ := addSetting_withFlag (f := f) hj
      obtain ⟨hle, hrest⟩ := addArguments_withFlag hk
      exact ⟨hflags ▸ hle, fun hf => bind_eq_ok_iff.mpr ⟨_, hsame, hrest hf⟩⟩
    | .optionsEnd => cases h
    | .named _ => cases h
    | .lettered _ => cases h

end

end Adding

/-! ## A flag in front -/

lemma addArguments_argument (i : Invocation) (f : Flag) (texts : List String) :
    i.addArguments (f.argument :: texts) = (do addArguments (← i.addFlag f) texts) := by
  have hkind : ∃ name, Argument.ofText f.argument = .named name ∧
      i.addName name = (do .ok (← i.addFlag f, none)) := by
    cases f <;> exact ⟨_, rfl, rfl⟩
  obtain ⟨name, hkind, hname⟩ := hkind
  rw [addArguments, hkind]
  dsimp only
  rw [hname]
  cases i.addFlag f with
  | error e => rfl
  | ok j => exact addWaiting.eq_1 j texts

/-- **A flag can be put in front of an accepted command line** that lacks it. -/
theorem parse_flag_cons {f : Flag} {i : Invocation} {texts : List String} (h : parse texts = .ok i)
    (hf : i.has f = false) : parse (f.argument :: texts) = .ok (i.withFlag f) := by
  have hadd : ({} : Invocation).addFlag f = .ok (({} : Invocation).withFlag f) := rfl
  have hlacks : f ∉ i.flags := fun hmem => Bool.eq_false_iff.mp hf (has_iff.mpr hmem)
  rw [parse, addArguments_argument, hadd]
  exact (addArguments_withFlag h).2 hlacks

end Invocation

end Placard
