import FieldGate.Pattern.Bracket
import Mathlib.Data.List.TakeWhile

/-! What stands behind a pattern does not change how the pattern is read, if it begins with a
closing parenthesis. It may be lost: a comment that is open at the end of the pattern takes it. -/
namespace FieldGate.Pattern

open Unicode (isBlank)

variable {α : Type} {f : Flags} {p : Char → Bool} {cs rest z : List Char} {c : Char} {lost : Bool}

/-- A text that begins with a closing parenthesis, and that ends no comment and no class name. -/
def Closing (z : List Char) : Prop := ∃ y, z = ')' :: y ∧ '\n' ∉ y ∧ ':' ∉ y

/-- A number sign stands in the last line. -/
def SignInLastLine (cs : List Char) : Prop :=
  ∃ before comment, cs = before ++ '#' :: comment ∧ '\n' ∉ comment

theorem Closing.eq_cons (hz : Closing z) (h : cs ++ z = c :: rest) (hc : c ≠ ')') :
    ∃ ds, cs = c :: ds := by
  obtain ⟨y, rfl, -, -⟩ := hz
  cases cs with
  | nil =>
    cases h
    exact absurd rfl hc
  | cons d ds =>
    cases h
    exact ⟨ds, rfl⟩

theorem Closing.append_ne (hz : Closing z) (h : ∀ ds, cs = c :: ds → False) (hc : c ≠ ')')
    (rest : List Char) : cs ++ z ≠ c :: rest := fun heq =>
  have ⟨ds, hds⟩ := hz.eq_cons heq hc
  h ds hds

/-- What remains to be read of `rest` and a text behind it, which may be lost. -/
def remaining (lost : Bool) (rest z : List Char) : List Char := if lost then [] else rest ++ z

/-- A reading leaves the last of the characters. It can lose what stands behind them only in a
comment that goes on to the end. -/
structure Leaves (cs rest : List Char) (lost : Bool) : Prop where
  suffix : rest <:+ cs
  of_lost : lost = true → rest = [] ∧ SignInLastLine cs

/-- A reader that goes on the same whatever closing text stands behind its characters. -/
def Firm (read : List Char → Option (α × List Char)) : Prop :=
  ∀ cs a rest, read cs = some (a, rest) →
    rest <:+ cs ∧ ∀ z, Closing z → read (cs ++ z) = some (a, rest ++ z)

/-- A reader that goes on the same up to the loss of the closing text. -/
def Steady (read : List Char → Option (α × List Char)) : Prop :=
  ∀ cs a rest, read cs = some (a, rest) →
    ∃ lost, Leaves cs rest lost ∧ ∀ z, Closing z → read (cs ++ z) = some (a, remaining lost rest z)

@[simp] theorem remaining_false : remaining false rest z = rest ++ z := rfl

@[simp] theorem remaining_true : remaining true rest z = [] := rfl

theorem SignInLastLine.of_suffix (h : SignInLastLine rest) (hsuffix : rest <:+ cs) :
    SignInLastLine cs := by
  obtain ⟨before, comment, rfl, hcomment⟩ := h
  obtain ⟨front, rfl⟩ := hsuffix
  exact ⟨front ++ before, comment, by rw [List.append_assoc], hcomment⟩

theorem leaves_refl (cs : List Char) : Leaves cs cs false := ⟨List.suffix_refl cs, nofun⟩

theorem Leaves.of_suffix {mid : List Char} (h : Leaves mid rest lost) (hsuffix : mid <:+ cs) :
    Leaves cs rest lost :=
  ⟨h.suffix.trans hsuffix, fun hlost =>
    ⟨(h.of_lost hlost).1, (h.of_lost hlost).2.of_suffix hsuffix⟩⟩

/-- Where something is left nothing is lost. -/
theorem Leaves.eq_false (h : Leaves cs rest lost) (hrest : rest ≠ []) : lost = false :=
  Bool.eq_false_iff.mpr fun hlost => hrest (h.of_lost hlost).1

theorem Firm.steady {read : List Char → Option (α × List Char)} (h : Firm read) : Steady read :=
  fun cs a rest hread =>
    have ⟨hsuffix, happend⟩ := h cs a rest hread
    ⟨false, ⟨hsuffix, nofun⟩, happend⟩

/-- A steady reader that leaves something has lost nothing. -/
theorem Steady.append_of_ne_nil {read : List Char → Option (α × List Char)} (h : Steady read)
    {a : α} (hread : read cs = some (a, rest)) (hrest : rest ≠ []) :
    rest <:+ cs ∧ ∀ z, Closing z → read (cs ++ z) = some (a, rest ++ z) := by
  obtain ⟨lost, hleaves, happend⟩ := h cs a rest hread
  obtain rfl := hleaves.eq_false hrest
  exact ⟨hleaves.suffix, happend⟩

theorem Steady.map {β : Type} {read : List Char → Option (α × List Char)} (h : Steady read)
    (g : α → β) : Steady fun cs => (read cs).map fun (a, rest) => (g a, rest) := by
  intro cs b rest hmap
  obtain ⟨⟨a, tail⟩, hread, heq⟩ := Option.map_eq_some_iff.mp hmap
  cases heq
  obtain ⟨lost, hleaves, happend⟩ := h cs a _ hread
  exact ⟨lost, hleaves, fun z hz => by simp only [happend z hz, Option.map_some]⟩

/-- A steady reader that goes on as another one, which may depend on what was read. -/
theorem Steady.bind {β : Type} {read : List Char → Option (α × List Char)} (h : Steady read)
    {next : α → List Char → Option (β × List Char)} (hnext : ∀ a, Steady (next a)) :
    Steady fun cs => (read cs).bind fun (a, rest) => next a rest := by
  intro cs b rest hbind
  obtain ⟨⟨a, mid⟩, hread, hrest⟩ := Option.bind_eq_some_iff.mp hbind
  obtain ⟨lost, hleaves, happend⟩ := h cs a mid hread
  obtain ⟨lost', hleaves', happend'⟩ := hnext a mid b rest hrest
  cases lost with
  | false =>
    refine ⟨lost', hleaves'.of_suffix hleaves.suffix, fun z hz => ?_⟩
    simp only [happend z hz, Option.bind_some, remaining_false, happend' z hz]
  | true =>
    -- nothing is left to go on with, and so nothing is left then
    obtain ⟨rfl, hsign⟩ := hleaves.of_lost rfl
    obtain rfl := List.suffix_nil.mp hleaves'.suffix
    refine ⟨true, ⟨List.nil_suffix, fun _ => ⟨rfl, hsign⟩⟩, fun z hz => ?_⟩
    simp only [happend z hz, Option.bind_some, remaining_true]
    exact hrest

/-- A reader that reads one character and then goes on as a steady reader. -/
theorem Steady.cons {read tail : List Char → Option (α × List Char)} (h : Steady tail) {a : α}
    (htail : tail cs = some (a, rest)) (heq : ∀ ds, read (c :: ds) = tail ds) :
    ∃ lost, Leaves (c :: cs) rest lost ∧
      ∀ z, Closing z → read (c :: cs ++ z) = some (a, remaining lost rest z) := by
  obtain ⟨lost, hleaves, happend⟩ := h cs a rest htail
  refine ⟨lost, hleaves.of_suffix (List.suffix_cons c cs), fun z hz => ?_⟩
  rw [List.cons_append, heq, happend z hz]

theorem firm_pure (a : α) : Firm fun cs => some (a, cs) := by
  intro cs b rest h
  cases h
  exact ⟨List.suffix_refl cs, fun _ _ => rfl⟩

theorem firm_option (o : Option α) : Firm fun cs => o.map (·, cs) := by
  intro cs a rest h
  obtain ⟨b, rfl, heq⟩ := Option.map_eq_some_iff.mp h
  cases heq
  exact ⟨List.suffix_refl cs, fun _ _ => rfl⟩

section Blanks

theorem skipIgnored_suffix (b : Bool) (cs : List Char) : skipIgnored b cs <:+ cs := by
  induction cs generalizing b with
  | nil => exact List.suffix_refl []
  | cons c cs ih =>
    unfold skipIgnored
    split_ifs
    · exact (ih _).trans (List.suffix_cons c cs)
    · exact (ih _).trans (List.suffix_cons c cs)
    · exact (ih _).trans (List.suffix_cons c cs)
    · exact List.suffix_refl _

theorem skipIgnored_append {b : Bool} (h : skipIgnored b cs ≠ []) (z : List Char) :
    skipIgnored b (cs ++ z) = skipIgnored b cs ++ z := by
  induction cs generalizing b with
  | nil => exact absurd rfl h
  | cons c cs ih =>
    rw [List.cons_append]
    unfold skipIgnored at h ⊢
    split_ifs at h ⊢
    · exact ih h
    · exact ih h
    · exact ih h
    · rfl

theorem skipIgnored_comment (h : '\n' ∉ cs) : skipIgnored true cs = [] := by
  induction cs with
  | nil => rfl
  | cons c cs ih =>
    rw [List.mem_cons, not_or] at h
    have hc : (c != '\n') = true := bne_iff_ne.mpr (Ne.symm h.1)
    rw [skipIgnored, if_pos rfl, hc, ih h.2]

/-- Blanks and comments to the end leave what is put behind them, or lose it in the last comment. -/
theorem skipIgnored_closing {b : Bool} (h : skipIgnored b cs = []) :
    (∀ z, Closing z → skipIgnored b (cs ++ z) = z) ∨
      (∀ z, Closing z → skipIgnored b (cs ++ z) = []) ∧
        (SignInLastLine cs ∨ b = true ∧ '\n' ∉ cs) := by
  induction cs generalizing b with
  | nil =>
    cases b with
    | false =>
      have hblank : isBlank ')' = false := by decide
      refine .inl ?_
      rintro z ⟨y, rfl, -, -⟩
      simp [skipIgnored, hblank]
    | true =>
      refine .inr ⟨?_, .inr ⟨rfl, List.not_mem_nil⟩⟩
      rintro z ⟨y, rfl, hy, -⟩
      exact skipIgnored_comment (by simpa using hy)
  | cons c cs ih =>
    have hsuffix : cs <:+ c :: cs := List.suffix_cons c cs
    simp only [List.cons_append]
    unfold skipIgnored at h ⊢
    split_ifs at h ⊢ with hb hblank hsign
    · -- in a comment, which goes on or ends with the line
      rcases ih h with hkeep | ⟨hlose, hlast | ⟨hc, hcs⟩⟩
      · exact .inl hkeep
      · exact .inr ⟨hlose, .inl (hlast.of_suffix hsuffix)⟩
      · have hne : '\n' ≠ c := Ne.symm (bne_iff_ne.mp hc)
        exact .inr ⟨hlose, .inr ⟨hb, List.not_mem_cons_of_ne_of_not_mem hne hcs⟩⟩
    · rcases ih h with hkeep | ⟨hlose, hlast | ⟨hc, -⟩⟩
      · exact .inl hkeep
      · exact .inr ⟨hlose, .inl (hlast.of_suffix hsuffix)⟩
      · cases hc
    · rcases ih h with hkeep | ⟨hlose, hlast | ⟨-, hcs⟩⟩
      · exact .inl hkeep
      · exact .inr ⟨hlose, .inl (hlast.of_suffix hsuffix)⟩
      · exact .inr ⟨hlose, .inl ⟨[], cs, by rw [beq_iff_eq.mp hsign, List.nil_append], hcs⟩⟩

theorem Flags.skip_suffix (f : Flags) (cs : List Char) : f.skip cs <:+ cs := by
  unfold skip
  split
  · exact skipIgnored_suffix false cs
  · exact List.suffix_refl cs

@[simp] theorem Flags.skip_nil (f : Flags) : f.skip [] = [] := by
  unfold skip
  split <;> rfl

theorem Flags.skip_append (h : f.skip cs ≠ []) (z : List Char) :
    f.skip (cs ++ z) = f.skip cs ++ z := by
  unfold skip at h ⊢
  split_ifs at h ⊢
  · exact skipIgnored_append h z
  · rfl

/-- Where something follows the blanks it is the same. -/
theorem Flags.skip_eq_cons (h : f.skip cs = c :: rest) :
    c :: rest <:+ cs ∧ ∀ z, f.skip (cs ++ z) = c :: (rest ++ z) := by
  refine ⟨h ▸ f.skip_suffix cs, fun z => ?_⟩
  rw [f.skip_append (by rw [h]; exact List.cons_ne_nil c rest), h, List.cons_append]

theorem Flags.skip_closing (f : Flags) (cs : List Char) :
    ∃ lost, Leaves cs (f.skip cs) lost ∧
      ∀ z, Closing z → f.skip (cs ++ z) = remaining lost (f.skip cs) z := by
  by_cases hskip : f.skip cs = []
  · rw [hskip]
    cases hf : f.ignoreBlanks with
    | false =>
      have hid (ds : List Char) : f.skip ds = ds := by rw [skip, hf, if_neg Bool.false_ne_true]
      rw [hid] at hskip
      subst hskip
      exact ⟨false, leaves_refl [], fun z _ => hid z⟩
    | true =>
      have hignored (ds : List Char) : f.skip ds = skipIgnored false ds := by
        rw [skip, hf, if_pos rfl]
      simp only [hignored] at hskip ⊢
      rcases skipIgnored_closing hskip with hkeep | ⟨hlose, hlast | ⟨hb, -⟩⟩
      · exact ⟨false, ⟨List.nil_suffix, nofun⟩, hkeep⟩
      · exact ⟨true, ⟨List.nil_suffix, fun _ => ⟨rfl, hlast⟩⟩, hlose⟩
      · cases hb
  · exact ⟨false, ⟨f.skip_suffix cs, nofun⟩, fun z _ => skip_append hskip z⟩

/-- A steady reader is one where blanks and comments come first too. -/
theorem Steady.after_skip {read : List Char → Option (α × List Char)} (h : Steady read)
    (f : Flags) : Steady fun cs => read (f.skip cs) := by
  have hskip : Steady fun cs => some ((), f.skip cs) := by
    intro cs u rest heq
    cases heq
    obtain ⟨lost, hleaves, happend⟩ := f.skip_closing cs
    exact ⟨lost, hleaves, fun z hz => congrArg (fun ds => some ((), ds)) (happend z hz)⟩
  exact hskip.bind fun _ => h

/-- A closing text begins with no blank and no comment. -/
theorem Flags.skip_of_closing (f : Flags) (hz : Closing z) : f.skip z = z := by
  obtain ⟨lost, hleaves, happend⟩ := f.skip_closing []
  rw [f.skip_nil] at hleaves happend
  cases lost with
  | false => exact happend z hz
  | true =>
    obtain ⟨-, before, comment, heq, -⟩ := hleaves.of_lost rfl
    cases before with
    | nil | cons => cases heq

theorem skipIgnored_of_blank (b : Bool) (h : cs.dropWhile isBlank = []) :
    skipIgnored b cs = [] := by
  induction cs generalizing b with
  | nil => rfl
  | cons c cs ih =>
    have hall := List.dropWhile_eq_nil_iff.mp h
    have hc : isBlank c = true := hall c List.mem_cons_self
    have hcs : cs.dropWhile isBlank = [] :=
      List.dropWhile_eq_nil_iff.mpr fun d hd => hall d (List.mem_cons_of_mem c hd)
    unfold skipIgnored
    rw [if_pos hc]
    split_ifs
    · exact ih _ hcs
    · exact ih _ hcs

theorem skipIgnored_dropWhile (cs : List Char) :
    skipIgnored false (cs.dropWhile isBlank) = skipIgnored false cs := by
  induction cs with
  | nil => rfl
  | cons c cs ih =>
    rw [List.dropWhile_cons]
    split
    · rename_i hc
      rw [ih, skipIgnored.eq_def false (c :: cs)]
      simp [hc]
    · rfl

theorem dropWhile_append_of_ne_nil (h : cs.dropWhile p ≠ []) (z : List Char) :
    (cs ++ z).dropWhile p = cs.dropWhile p ++ z := by
  rw [List.dropWhile_append, if_neg (by simpa using h)]

theorem takeWhile_append_of_ne_nil (h : cs.dropWhile p ≠ []) (z : List Char) :
    (cs ++ z).takeWhile p = cs.takeWhile p := by
  have hlength := congrArg List.length (List.takeWhile_append_dropWhile (p := p) (l := cs))
  have hpos := List.length_pos_iff.mpr h
  rw [List.length_append] at hlength
  rw [List.takeWhile_append, if_neg (by omega)]

theorem head?_append_of_eq_some {cs : List Char} (h : cs.head? = some c) (z : List Char) :
    (cs ++ z).head? = some c := by
  rw [List.head?_append, h, Option.some_or]

theorem Flags.peek_append (h : f.peek cs = some c) (z : List Char) :
    f.peek (cs ++ z) = some c := by
  have hdrop {ds : List Char} (h : (ds.dropWhile isBlank).head? = some c) :
      ((ds ++ z).dropWhile isBlank).head? = some c := by
    have hne : ds.dropWhile isBlank ≠ [] := by
      intro hnil
      rw [hnil] at h
      cases h
    rw [dropWhile_append_of_ne_nil hne, head?_append_of_eq_some h]
  unfold peek at h ⊢
  split_ifs at h ⊢
  · cases hblank : cs.dropWhile isBlank with
    | nil =>
      rw [hblank] at h
      cases h
    | cons d rest =>
      rw [dropWhile_append_of_ne_nil (by rw [hblank]; exact List.cons_ne_nil d rest), hblank]
      rw [hblank] at h
      by_cases hd : d = '#'
      · subst hd
        exact hdrop h
      · simp only [List.cons_append]
        split at h
        · rename_i heq
          cases heq
          exact absurd rfl hd
        · split
          · rename_i heq
            cases heq
            exact absurd rfl hd
          · exact h
  · exact head?_append_of_eq_some h z

/-- Where there is no next character only blanks are left. -/
theorem Flags.skip_of_peek_eq_none (h : f.peek cs = none) : f.skip cs = [] := by
  unfold peek at h
  unfold skip
  split_ifs at h ⊢
  · rw [← skipIgnored_dropWhile]
    split at h
    · rename_i rest heq
      have hblank : isBlank '#' = false := by decide
      rw [heq, skipIgnored, if_neg Bool.false_ne_true, hblank, if_neg Bool.false_ne_true,
        if_pos (beq_self_eq_true _)]
      exact skipIgnored_of_blank true (List.head?_eq_none_iff.mp h)
    · rw [List.head?_eq_none_iff.mp h]
      rfl
  · exact List.head?_eq_none_iff.mp h

end Blanks

section Spaced

variable {n m : Nat} {taken : List Char}

theorem takeSpaced_suffix (f : Flags) (p : Char → Bool) (n : Nat) (cs : List Char) :
    (takeSpaced f p n cs).2 <:+ cs := by
  induction n generalizing cs with
  | zero => exact List.suffix_refl cs
  | succ n ih =>
    cases cs with
    | nil => exact List.suffix_refl []
    | cons c cs =>
      rw [takeSpaced]
      split
      · exact ((ih (f.skip cs)).trans (f.skip_suffix cs)).trans (List.suffix_cons c cs)
      · exact List.suffix_refl _

theorem takeSpaced_nil (f : Flags) (p : Char → Bool) (n : Nat) :
    takeSpaced f p n [] = ([], []) := by
  cases n <;> rfl

/-- The characters taken are the same if a character that is not of the kind stops the reading. -/
theorem takeSpaced_append (h : takeSpaced f p n cs = (taken, c :: rest)) (hn : cs.length ≤ n)
    (z : List Char) (hm : cs.length ≤ m) :
    takeSpaced f p m (cs ++ z) = (taken, c :: rest ++ z) := by
  induction n generalizing cs taken m with
  | zero =>
    obtain rfl := List.length_eq_zero_iff.mp (Nat.le_zero.mp hn)
    cases h
  | succ n ih =>
    cases cs with
    | nil =>
      rw [takeSpaced_nil] at h
      cases h
    | cons d cs =>
      obtain ⟨m, rfl⟩ : ∃ k, m = k + 1 := Nat.exists_eq_add_one_of_ne_zero (by rintro rfl; cases hm)
      rw [List.cons_append]
      unfold takeSpaced at h ⊢
      split_ifs at h ⊢ with hd
      · obtain ⟨htaken, hrest⟩ := Prod.mk.inj h
        have hskip : f.skip cs ≠ [] := by
          intro hnil
          rw [hnil, takeSpaced_nil] at hrest
          cases hrest
        have hlength := (f.skip_suffix cs).length_le
        rw [List.length_cons] at hn hm
        have hread : takeSpaced f p n (f.skip cs) =
            ((takeSpaced f p n (f.skip cs)).1, c :: rest) := Prod.ext rfl hrest
        rw [f.skip_append hskip, ih hread (by omega) (by omega)]
        exact Prod.ext htaken rfl
      · obtain ⟨rfl, hrest⟩ := Prod.mk.inj h
        rw [← hrest]
        rfl

/-- So many characters are taken the same. -/
theorem takeSpaced_closing (h : takeSpaced f p n cs = (taken, rest)) (hn : taken.length = n) :
    ∃ lost, Leaves cs rest lost ∧
      ∀ z, Closing z → takeSpaced f p n (cs ++ z) = (taken, remaining lost rest z) := by
  induction n generalizing cs taken with
  | zero =>
    cases h
    exact ⟨false, leaves_refl _, fun _ _ => rfl⟩
  | succ n ih =>
    cases cs with
    | nil =>
      cases h
      cases hn
    | cons c cs =>
      unfold takeSpaced at h
      split_ifs at h with hc
      · obtain ⟨rfl, hrest⟩ := Prod.mk.inj h
        have htaken : takeSpaced f p n (f.skip cs) = ((takeSpaced f p n (f.skip cs)).1, rest) :=
          Prod.ext rfl hrest
        have hsuffix : f.skip cs <:+ c :: cs := (f.skip_suffix cs).trans (List.suffix_cons c cs)
        have hlength : (takeSpaced f p n (f.skip cs)).1.length = n := Nat.succ.inj hn
        by_cases hskip : f.skip cs = []
        · -- no more characters follow, so none are left to take
          rw [hskip, takeSpaced_nil] at hrest hlength ⊢
          subst hrest hlength
          obtain ⟨lost, hleaves, happend⟩ := f.skip_closing cs
          rw [hskip] at hleaves happend
          refine ⟨lost, hleaves.of_suffix (List.suffix_cons c cs), fun z hz => ?_⟩
          rw [List.cons_append, takeSpaced, if_pos hc, happend z hz]
          rfl
        · obtain ⟨lost, hleaves, happend⟩ := ih htaken hlength
          refine ⟨lost, hleaves.of_suffix hsuffix, fun z hz => ?_⟩
          rw [List.cons_append, takeSpaced, if_pos hc, f.skip_append hskip, happend z hz]
      · cases h
        cases hn

/-- What stands between braces is taken the same. -/
theorem takeSpaced_skip_append (h : takeSpaced f p cs.length (f.skip cs) = (taken, c :: rest)) :
    rest <:+ cs ∧
      ∀ z, takeSpaced f p (cs ++ z).length (f.skip (cs ++ z)) = (taken, c :: rest ++ z) := by
  have hskip : f.skip cs ≠ [] := by
    intro hnil
    rw [hnil, takeSpaced_nil] at h
    cases h
  have hlength : (f.skip cs).length ≤ cs.length := (f.skip_suffix cs).length_le
  constructor
  · have htail := takeSpaced_suffix f p cs.length (f.skip cs)
    rw [h] at htail
    exact ((List.suffix_cons c rest).trans htail).trans (f.skip_suffix cs)
  · intro z
    rw [f.skip_append hskip]
    refine takeSpaced_append h hlength z ?_
    rw [List.length_append]
    omega

end Spaced

/-- A number with something behind it is read the same. -/
theorem count?_append {n : Nat} (h : count? f cs = some (n, c :: rest)) :
    c :: rest <:+ cs ∧ ∀ z, count? f (cs ++ z) = some (n, c :: rest ++ z) := by
  have hblanks (ds : List Char) : ds.dropWhile isBlank <:+ ds := List.dropWhile_suffix _
  cases hread : takeSpaced f Char.isDigit cs.length (cs.dropWhile isBlank) with
  | mk digits tail =>
    simp only [count?, hread] at h
    split_ifs at h with hbad
    obtain ⟨rfl, hskip⟩ := Prod.mk.inj (Option.some.inj h)
    have hdrop : tail.dropWhile isBlank ≠ [] := by
      intro hnil
      rw [hnil, f.skip_nil] at hskip
      cases hskip
    obtain ⟨d, more, rfl⟩ := List.exists_cons_of_ne_nil (l := tail) (by rintro rfl; exact hdrop rfl)
    have hne : cs.dropWhile isBlank ≠ [] := by
      intro hnil
      rw [hnil, takeSpaced_nil] at hread
      cases hread
    have hlength : (cs.dropWhile isBlank).length ≤ cs.length := (hblanks cs).length_le
    constructor
    · have htail := takeSpaced_suffix f Char.isDigit cs.length (cs.dropWhile isBlank)
      rw [hread] at htail
      have hrest := f.skip_suffix ((d :: more).dropWhile isBlank)
      rw [hskip] at hrest
      exact ((hrest.trans (hblanks _)).trans htail).trans (hblanks cs)
    · intro z
      have hlonger : (cs.dropWhile isBlank).length ≤ (cs ++ z).length := by
        rw [List.length_append]
        omega
      have hread' := takeSpaced_append hread hlength z hlonger
      have hskip' : f.skip ((d :: more).dropWhile isBlank ++ z) =
          f.skip ((d :: more).dropWhile isBlank) ++ z :=
        f.skip_append (by rw [hskip]; exact List.cons_ne_nil c rest) z
      simp only [count?, dropWhile_append_of_ne_nil hne, hread', if_neg hbad,
        dropWhile_append_of_ne_nil hdrop, hskip', hskip]

theorem hexEscape?_steady (f : Flags) {digits : Nat} (hdigits : 0 < digits) :
    Steady (hexEscape? f digits) := by
  intro cs a rest h
  unfold hexEscape? at h
  cases hskip : f.skip cs with
  | nil =>
    simp only [hskip, takeSpaced_nil, List.length_nil] at h
    rw [if_neg fun hlength => Nat.ne_of_lt hdigits hlength.1] at h
    cases h
  | cons c more =>
    obtain ⟨hsuffix, hskip'⟩ := f.skip_eq_cons hskip
    rw [hskip] at h
    split at h
    · rename_i heq
      cases heq
      split at h
      · rename_i ds tail hread
        split_ifs at h with hempty
        obtain ⟨ch, hch, heq⟩ := Option.map_eq_some_iff.mp h
        cases heq
        obtain ⟨htail, happend⟩ := takeSpaced_skip_append hread
        refine ⟨false, ⟨(htail.trans (List.suffix_cons _ _)).trans hsuffix, nofun⟩, fun z _ => ?_⟩
        simp only [hexEscape?, hskip', happend z, List.cons_append, if_neg hempty, hch,
          Option.map_some, remaining_false]
      · cases h
    · rename_i hbrace
      have hc : c ≠ '{' := by
        rintro rfl
        exact hbrace more rfl
      cases hread : takeSpaced f isHexDigit digits (c :: more) with
      | mk ds tail =>
        simp only [hread] at h
        split_ifs at h with hlength
        obtain ⟨ch, hch, heq⟩ := Option.map_eq_some_iff.mp h
        cases heq
        obtain ⟨lost, hleaves, happend⟩ := takeSpaced_closing hread hlength.1
        refine ⟨lost, hleaves.of_suffix hsuffix, fun z hz => ?_⟩
        unfold hexEscape?
        rw [hskip' z]
        split
        · rename_i heq
          cases heq
          exact absurd rfl hc
        · rw [← List.cons_append]
          simp only [happend z hz, if_pos hlength, hch, Option.map_some]

section Properties

variable [Dialect]

theorem propertyEscape?_firm (f : Flags) (negated : Bool) : Firm (propertyEscape? f negated) := by
  intro cs a rest h
  unfold propertyEscape? at h
  dsimp only at h
  split_ifs at h with hascii
  cases hskip : f.skip cs with
  | nil =>
    rw [hskip] at h
    cases h
  | cons c more =>
    obtain ⟨hsuffix, hskip'⟩ := f.skip_eq_cons hskip
    rw [hskip] at h
    split at h
    · rename_i heq
      cases heq
      split at h
      · rename_i query tail hread
        obtain ⟨s, hs, heq⟩ := Option.map_eq_some_iff.mp h
        cases heq
        obtain ⟨htail, happend⟩ := takeSpaced_skip_append hread
        refine ⟨(htail.trans (List.suffix_cons _ _)).trans hsuffix, fun z _ => ?_⟩
        simp only [propertyEscape?, hskip', happend z, List.cons_append, hs, Option.map_some,
          if_neg hascii]
      · cases h
    · cases h
    · rename_i hbrace hslash heq
      cases heq
      obtain ⟨s, hs, heq⟩ := Option.map_eq_some_iff.mp h
      cases heq
      refine ⟨(List.suffix_cons _ _).trans hsuffix, fun z _ => ?_⟩
      unfold propertyEscape?
      dsimp only
      rw [if_neg hascii, hskip' z]
      split
      · rename_i heq
        cases heq
        exact (hbrace rfl).elim
      · rename_i heq
        cases heq
        exact (hslash rfl).elim
      · rename_i heq
        cases heq
        simp only [hs, Option.map_some]
      · rename_i heq
        cases heq
    · cases h

end Properties

theorem boundaryName?_firm (f : Flags) : Firm (boundaryName? f) := by
  intro cs a rest h
  unfold boundaryName? at h
  split at h
  · rename_i more
    dsimp only at h
    cases hskip : f.skip more with
    | nil =>
      rw [hskip] at h
      cases h
    | cons c name =>
      obtain ⟨hsuffix, hskip'⟩ := f.skip_eq_cons hskip
      rw [hskip] at h
      dsimp only at h
      split at h
      · rename_i hname
        cases h
        refine ⟨List.suffix_refl _, fun z _ => ?_⟩
        simp only [boundaryName?, List.cons_append, hskip', if_pos hname]
      · rename_i hname
        split at h
        · rename_i taken tail hread
          have htail := takeSpaced_suffix f (fun c => c.isAlpha || c == '-') (name.length + 1)
            (c :: name)
          rw [hread] at htail
          have hrest : tail <:+ '{' :: more :=
            (((List.suffix_cons _ _).trans htail).trans hsuffix).trans (List.suffix_cons _ _)
          have happend (z : List Char) : takeSpaced f (fun c => c.isAlpha || c == '-')
              ((name ++ z).length + 1) (c :: (name ++ z)) = (taken, '}' :: (tail ++ z)) :=
            takeSpaced_append hread (Nat.le_refl _) z (by simp)
          split at h
          all_goals cases h
          all_goals
            rename_i heq
            refine ⟨hrest, fun z _ => ?_⟩
            simp only [boundaryName?, List.cons_append, hskip', if_neg hname, happend, heq]
        · cases h
  · rename_i hbrace
    cases h
    refine ⟨List.suffix_refl _, ?_⟩
    rintro z ⟨y, rfl, -, -⟩
    unfold boundaryName?
    split
    · rename_i more heq
      cases cs with
      | nil => cases heq
      | cons c cs =>
        cases heq
        exact (hbrace cs rfl).elim
    · rfl

theorem escape?_steady [Dialect] (f : Flags) : Steady (escape? f) := by
  intro cs a rest h
  cases cs with
  | nil => cases h
  | cons c cs =>
    unfold escape? at h
    split at h
    · cases h
    case h_25 hothers heq =>
      cases heq
      split_ifs at h with hc
      exact (firm_pure _).steady.cons h fun ds => by rw [escape?, if_pos hc] <;> assumption
    all_goals
      rename_i heq
      cases heq
    · exact ((hexEscape?_steady f (by decide)).map .char).cons h fun ds => by rw [escape?]
    · exact ((hexEscape?_steady f (by decide)).map .char).cons h fun ds => by rw [escape?]
    · exact ((hexEscape?_steady f (by decide)).map .char).cons h fun ds => by rw [escape?]
    · exact ((propertyEscape?_firm f false).steady.map .set).cons h fun ds => by rw [escape?]
    · exact ((propertyEscape?_firm f true).steady.map .set).cons h fun ds => by rw [escape?]
    case h_7 | h_8 | h_9 | h_10 | h_11 | h_12 =>
      exact (firm_option _).steady.cons h fun ds => by rw [escape?]
    case h_21 => exact ((boundaryName?_firm f).steady.map .look).cons h fun ds => by rw [escape?]
    all_goals exact (firm_pure _).steady.cons h fun ds => by rw [escape?]

end FieldGate.Pattern
