import FieldGate.Proofs.Lookahead

/-! Brackets are read the same with a closing text behind them: a bracket has to be closed, so more
characters follow wherever the reader looks ahead in it. -/
namespace FieldGate.Pattern.Bracket

variable {f : Flags} {cs rest z : List Char} {c : Char}

def className? (f : Flags) (negated : Bool) (cs : List Char) : Option (CharSet × List Char) :=
  match cs.dropWhile (· != ':') with
  | ':' :: ']' :: rest =>
    (CharSet.ascii? (String.ofList (cs.takeWhile (· != ':')))).map fun s =>
      (.complementIf negated (f.fold s), rest)
  | _ => none

theorem asciiClass?_negated (f : Flags) (cs : List Char) :
    asciiClass? f (':' :: '^' :: cs) = className? f true cs := rfl

theorem asciiClass?_plain (f : Flags) (h : ∀ rest, cs ≠ '^' :: rest) :
    asciiClass? f (':' :: cs) = className? f false cs := by
  simp only [asciiClass?]
  rfl

theorem asciiClass?_eq_none (f : Flags) (h : c ≠ ':') (cs : List Char) :
    asciiClass? f (c :: cs) = none := by
  unfold asciiClass?
  split
  · rename_i heq
    cases heq
    exact absurd rfl h
  · rfl

/-- A class is named before its second colon, and no closing text has one. -/
theorem className?_append (hz : Closing z) (f : Flags) (negated : Bool) (cs : List Char) :
    className? f negated (cs ++ z) =
      (className? f negated cs).map fun (s, rest) => (s, rest ++ z) := by
  obtain ⟨y, rfl, -, hy⟩ := hz
  have hz : (')' :: y).dropWhile (· != ':') = [] :=
    List.dropWhile_eq_nil_iff.mpr fun d hd => by
      rw [bne_iff_ne]
      rintro rfl
      simp [hy] at hd
  unfold className?
  cases hcs : cs.dropWhile (· != ':') with
  | nil => simp [List.dropWhile_append, hcs, hz]
  | cons c rest =>
    have hne : cs.dropWhile (· != ':') ≠ [] := by
      rw [hcs]
      exact List.cons_ne_nil c rest
    rw [dropWhile_append_of_ne_nil hne, takeWhile_append_of_ne_nil hne, hcs]
    by_cases hc : c = ':'
    · cases rest with
      | nil => simp
      | cons d rest =>
        by_cases hd : d = ']'
        · subst hc hd
          simp [Function.comp_def]
        · simp [hd]
    · simp [hc]

theorem className?_suffix {negated : Bool} {s : CharSet}
    (h : className? f negated cs = some (s, rest)) : rest <:+ cs := by
  unfold className? at h
  split at h
  · rename_i hcs
    obtain ⟨t, -, heq⟩ := Option.map_eq_some_iff.mp h
    cases heq
    have hdrop : cs.dropWhile (· != ':') <:+ cs := List.dropWhile_suffix _
    rw [hcs] at hdrop
    exact ((List.suffix_cons _ _).trans (List.suffix_cons _ _)).trans hdrop
  · cases h

theorem asciiClass?_append (hz : Closing z) :
    asciiClass? f (cs ++ z) = (asciiClass? f cs).map fun (s, rest) => (s, rest ++ z) := by
  cases cs with
  | nil =>
    obtain ⟨y, rfl, -, -⟩ := hz
    rfl
  | cons c cs =>
    rw [List.cons_append]
    by_cases hc : c = ':'
    · subst hc
      by_cases hcaret : ∃ rest, cs = '^' :: rest
      · obtain ⟨rest, rfl⟩ := hcaret
        rw [List.cons_append, asciiClass?_negated, asciiClass?_negated, className?_append hz]
      · have hplain : ∀ rest, cs ≠ '^' :: rest := fun rest heq => hcaret ⟨rest, heq⟩
        have hplain' : ∀ rest, cs ++ z ≠ '^' :: rest := by
          obtain ⟨y, rfl, -, -⟩ := hz
          cases cs with
          | nil => exact fun rest heq => by cases heq
          | cons d cs => exact fun rest heq => hplain cs (by cases heq; rfl)
        rw [asciiClass?_plain f hplain, asciiClass?_plain f hplain', className?_append hz]
    · rw [asciiClass?_eq_none f hc, asciiClass?_eq_none f hc, Option.map_none]

theorem asciiClass?_suffix {s : CharSet} (h : asciiClass? f cs = some (s, rest)) :
    rest <:+ cs := by
  cases cs with
  | nil => cases h
  | cons c cs =>
    by_cases hc : c = ':'
    · subst hc
      by_cases hcaret : ∃ rest, cs = '^' :: rest
      · obtain ⟨ds, rfl⟩ := hcaret
        rw [asciiClass?_negated] at h
        exact ((className?_suffix h).trans (List.suffix_cons _ _)).trans (List.suffix_cons _ _)
      · rw [asciiClass?_plain f fun rest heq => hcaret ⟨rest, heq⟩] at h
        exact (className?_suffix h).trans (List.suffix_cons _ _)
    · rw [asciiClass?_eq_none f hc] at h
      cases h

def negation (f : Flags) (cs : List Char) : Bool × List Char :=
  let cs := f.skip cs
  match cs with
  | '^' :: rest => (true, f.skip rest)
  | _ => (false, cs)

/-- Minus signs and a closing bracket that stand for themselves at the beginning of a bracket. -/
def membersAhead (f : Flags) (negated : Bool) (cs : List Char) : Bracket × List Char :=
  let (dashes, cs) := takeSpaced f (· == '-') cs.length cs
  let b : Bracket := { negated, items := dashes.map CharSet.char }
  match dashes, cs with
  | [], ']' :: rest => (b.push (.char ']'), f.skip rest)
  | _, _ => (b, cs)

theorem opened_eq (f : Flags) (cs : List Char) :
    opened f cs = membersAhead f (negation f cs).1 (negation f cs).2 := rfl

theorem negation_append (h : (negation f cs).2 ≠ []) :
    (negation f cs).2 <:+ cs ∧
      ∀ z, negation f (cs ++ z) = ((negation f cs).1, (negation f cs).2 ++ z) := by
  unfold negation at h ⊢
  cases hskip : f.skip cs with
  | nil =>
    rw [hskip] at h
    exact absurd rfl h
  | cons c more =>
    obtain ⟨hsuffix, hskip'⟩ := f.skip_eq_cons hskip
    rw [hskip] at h
    simp only [hskip']
    by_cases hc : c = '^'
    · subst hc
      exact ⟨((f.skip_suffix more).trans (List.suffix_cons _ _)).trans hsuffix,
        fun z => by simp only [f.skip_append h z]⟩
    · split
      · rename_i heq
        cases heq
        exact absurd rfl hc
      · refine ⟨hsuffix, fun z => ?_⟩
        split
        · rename_i heq
          cases heq
          exact absurd rfl hc
        · rfl

theorem membersAhead_append {negated : Bool} (h : f.skip (membersAhead f negated cs).2 ≠ []) :
    (membersAhead f negated cs).2 <:+ cs ∧ ∀ z, membersAhead f negated (cs ++ z) =
      ((membersAhead f negated cs).1, (membersAhead f negated cs).2 ++ z) := by
  cases hread : takeSpaced f (· == '-') cs.length cs with
  | mk dashes tail =>
    have htail := takeSpaced_suffix f (· == '-') cs.length cs
    rw [hread] at htail
    cases tail with
    | nil =>
      -- nothing follows, so nothing could close the bracket
      have hnil : (membersAhead f negated cs).2 = [] := by simp [membersAhead, hread]
      rw [hnil] at h
      exact absurd f.skip_nil h
    | cons c tail =>
      have happend (z : List Char) : takeSpaced f (· == '-') (cs ++ z).length (cs ++ z) =
          (dashes, c :: (tail ++ z)) := takeSpaced_append hread (le_refl _) z (by simp)
      unfold membersAhead at h ⊢
      simp only [hread, happend] at h ⊢
      cases dashes with
      | nil =>
        by_cases hc : c = ']'
        · subst hc
          have hskip : f.skip tail ≠ [] := by
            intro hnil
            simp [hnil] at h
          exact ⟨((f.skip_suffix tail).trans (List.suffix_cons _ _)).trans htail,
            fun z => by simp only [f.skip_append hskip z]⟩
        · simp [hc, htail]
      | cons d ds => exact ⟨htail, fun _ => rfl⟩

theorem opened_append {b : Bracket} (hopen : opened f cs = (b, rest)) (h : f.skip rest ≠ []) :
    rest <:+ cs ∧ ∀ z, opened f (cs ++ z) = (b, rest ++ z) := by
  rw [opened_eq] at hopen
  have hskip : f.skip (membersAhead f (negation f cs).1 (negation f cs).2).2 ≠ [] := by rwa [hopen]
  have hmembers := membersAhead_append hskip
  rw [hopen] at hmembers
  obtain ⟨hsuffix, happend⟩ := hmembers
  have hne : (negation f cs).2 ≠ [] := by
    intro hnil
    rw [hnil] at hsuffix
    rw [show rest = [] from List.suffix_nil.mp hsuffix] at h
    exact h f.skip_nil
  obtain ⟨hsuffix', happend'⟩ := negation_append hne
  exact ⟨hsuffix.trans hsuffix', fun z => by rw [opened_eq, happend' z, happend z]⟩

section Members

variable [Dialect]

theorem member?_steady (f : Flags) : Steady (member? f) := by
  intro cs a rest h
  unfold member? at h
  split at h
  · cases h
  · obtain ⟨lost, hleaves, happend⟩ := escape?_steady f _ a rest h
    exact ⟨lost, hleaves.of_suffix (List.suffix_cons _ _), happend⟩
  · cases h
    refine ⟨false, ⟨List.suffix_cons _ _, nofun⟩, fun z _ => ?_⟩
    rw [List.cons_append, member?]
    · rfl
    · assumption

/-- The set between two members, if they are characters in order. -/
def span? : Escaped → Escaped → Option CharSet
  | .char lo, .char hi => if lo ≤ hi then some (.span lo hi) else none
  | _, _ => none

def restOfItem? (f : Flags) (first : Escaped) : List Char → Option (CharSet × List Char)
  | [] => none
  | '-' :: rest =>
    if f.peek rest == some ']' || f.peek rest == some '-' then
      (item?.alone first).map (·, '-' :: rest)
    else (member? f (f.skip rest)).bind fun (last, rest) => (span? first last).map (·, rest)
  | rest => (item?.alone first).map (·, rest)

theorem item?_eq (f : Flags) (cs : List Char) :
    item? f cs = (member? f cs).bind fun (first, rest) => restOfItem? f first (f.skip rest) := by
  unfold item?
  refine congrArg _ (funext fun (first, rest) => ?_)
  have halone (ds : List Char) : (do return (← item?.alone first, ds)) =
      (item?.alone first).map (·, ds) := by
    cases item?.alone first <;> rfl
  dsimp only
  generalize f.skip rest = ds
  cases ds with
  | nil => rfl
  | cons c more =>
    by_cases hc : c = '-'
    · subst hc
      simp only [restOfItem?, halone]
      split_ifs
      · rfl
      · refine congrArg _ (funext fun (last, rest) => ?_)
        dsimp only
        cases first with
        | set | look => rfl
        | char lo =>
          cases last with
          | set | look => rfl
          | char hi => simp only [span?]; split_ifs <;> rfl
    · simp only [halone]
      simp [restOfItem?, hc]

theorem restOfItem?_steady (f : Flags) (first : Escaped) : Steady (restOfItem? f first) := by
  intro cs s rest h
  unfold restOfItem? at h
  split at h
  · cases h
  · rename_i more
    split_ifs at h with hsign
    · -- the minus sign stands for itself
      obtain ⟨d, hd⟩ : ∃ d, f.peek more = some d := by
        cases hnext : f.peek more with
        | none => simp [hnext] at hsign
        | some d => exact ⟨d, rfl⟩
      obtain ⟨s, hs, heq⟩ := Option.map_eq_some_iff.mp h
      cases heq
      refine ⟨false, leaves_refl _, fun z _ => ?_⟩
      rw [List.cons_append, restOfItem?, f.peek_append hd, ← hd, if_pos hsign, hs]
      rfl
    · obtain ⟨d, hd⟩ : ∃ d, f.peek more = some d := by
        refine Option.ne_none_iff_exists'.mp fun hnone => ?_
        rw [f.skip_of_peek_eq_none hnone] at h
        cases h
      have hread : Steady fun cs => (member? f (f.skip cs)).bind fun (last, rest) =>
          (span? first last).map (·, rest) :=
        ((member?_steady f).after_skip f).bind fun last => (firm_option (span? first last)).steady
      obtain ⟨lost, hleaves, happend⟩ := hread more s rest h
      refine ⟨lost, hleaves.of_suffix (List.suffix_cons _ _), fun z hz => ?_⟩
      rw [List.cons_append, restOfItem?, f.peek_append hd, ← hd, if_neg hsign]
      exact happend z hz
  · rename_i hnil hminus
    obtain ⟨c, more, rfl⟩ : ∃ c more, cs = c :: more := List.exists_cons_of_ne_nil hnil
    obtain ⟨s, hs, heq⟩ := Option.map_eq_some_iff.mp h
    cases heq
    have hc : c ≠ '-' := by
      rintro rfl
      exact hminus more rfl
    refine ⟨false, leaves_refl _, fun z _ => ?_⟩
    simp [restOfItem?, hs, hc]

theorem item?_steady (f : Flags) : Steady (item? f) := by
  rw [funext (item?_eq f)]
  exact (member?_steady f).bind fun first => (restOfItem?_steady f first).after_skip f

/-- A bracket that is read to its end has something in it. -/
theorem skip_of_read? {n : Nat} {b : Bracket} {outer : List Bracket} {s : CharSet}
    (h : read? f n b outer cs = some (s, rest)) : f.skip cs ≠ [] := by
  intro hnil
  cases n with
  | zero => cases h
  | succ n =>
    rw [read?, hnil] at h
    cases h

theorem read?_append {n m : Nat} {b : Bracket} {outer : List Bracket} {s : CharSet}
    (h : read? f n b outer cs = some (s, rest)) (hm : n ≤ m) :
    rest <:+ cs ∧ ∀ z, Closing z → read? f m b outer (cs ++ z) = some (s, rest ++ z) := by
  induction n generalizing m b outer cs with
  | zero => cases h
  | succ n ih =>
    obtain ⟨m, rfl⟩ : ∃ k, m = k + 1 := Nat.exists_eq_add_one_of_ne_zero (by omega)
    have hm : n ≤ m := Nat.le_of_succ_le_succ hm
    obtain ⟨c, more, hskip⟩ := List.exists_cons_of_ne_nil (skip_of_read? h)
    obtain ⟨hsuffix, hskip'⟩ := f.skip_eq_cons hskip
    -- each sign is followed by what the rest of the bracket is read from
    have hsigns (sign : List Char) {ds : List Char} (heq : c :: more = sign ++ ds)
        (hds : rest <:+ ds) : rest <:+ cs :=
      (hds.trans (heq ▸ List.suffix_append sign ds)).trans hsuffix
    unfold read? at h ⊢
    rw [hskip] at h
    simp only [hskip']
    split at h
    · rename_i heq
      cases heq
    · rename_i ds heq
      cases heq
      split at h
      · rename_i t tail hclass
        split_ifs at h with hadmits
        obtain ⟨hrest, happend⟩ := ih h hm
        refine ⟨hsigns ['['] rfl (hrest.trans (asciiClass?_suffix hclass)), fun z hz => ?_⟩
        simp only [asciiClass?_append hz, hclass, Option.map_some, if_pos hadmits, happend z hz]
      · rename_i hclass
        cases hopen : opened f more with
        | mk inner tail =>
          simp only [hopen] at h
          obtain ⟨hopened, hopened'⟩ := opened_append hopen (skip_of_read? h)
          obtain ⟨hrest, happend⟩ := ih h hm
          refine ⟨hsigns ['['] rfl (hrest.trans hopened), fun z hz => ?_⟩
          simp only [asciiClass?_append hz, hclass, Option.map_none, hopened', happend z hz]
    · rename_i ds heq
      cases heq
      split_ifs at h with hadmits
      split at h
      · cases h
        exact ⟨hsigns [']'] rfl (List.suffix_refl _), fun _ _ => if_pos hadmits⟩
      · obtain ⟨hrest, happend⟩ := ih h hm
        refine ⟨hsigns [']'] rfl hrest, fun z hz => ?_⟩
        simp only [if_pos hadmits, happend z hz]
    · rename_i ds heq
      cases heq
      obtain ⟨hrest, happend⟩ := ih h hm
      exact ⟨hsigns ['&', '&'] rfl hrest, fun z hz => happend z hz⟩
    · rename_i ds heq
      cases heq
      obtain ⟨hrest, happend⟩ := ih h hm
      exact ⟨hsigns ['-', '-'] rfl hrest, fun z hz => happend z hz⟩
    · rename_i ds heq
      cases heq
      obtain ⟨hrest, happend⟩ := ih h hm
      exact ⟨hsigns ['~', '~'] rfl hrest, fun z hz => happend z hz⟩
    · rename_i hopen hclose hand hminus htilde
      split at h
      · rename_i t tail hitem
        split_ifs at h with hadmits
        have htail : tail ≠ [] := by
          rintro rfl
          exact skip_of_read? h f.skip_nil
        obtain ⟨hsuffix', hitem'⟩ := (item?_steady f).append_of_ne_nil hitem htail
        obtain ⟨hrest, happend⟩ := ih h hm
        refine ⟨(hrest.trans hsuffix').trans hsuffix, fun z hz => ?_⟩
        -- the closing text makes no operator of the sign
        split
        · rename_i heq
          cases heq
        · rename_i heq
          cases heq
          exact (hopen more rfl).elim
        · rename_i heq
          cases heq
          exact (hclose more rfl).elim
        · rename_i heq
          obtain ⟨rfl, hmore⟩ := List.cons.inj heq
          obtain ⟨ds, rfl⟩ := hz.eq_cons hmore (by decide)
          exact (hand ds rfl).elim
        · rename_i heq
          obtain ⟨rfl, hmore⟩ := List.cons.inj heq
          obtain ⟨ds, rfl⟩ := hz.eq_cons hmore (by decide)
          exact (hminus ds rfl).elim
        · rename_i heq
          obtain ⟨rfl, hmore⟩ := List.cons.inj heq
          obtain ⟨ds, rfl⟩ := hz.eq_cons hmore (by decide)
          exact (htilde ds rfl).elim
        · rw [← List.cons_append]
          simp only [hitem' z hz, if_pos hadmits, happend z hz]
      · cases h

end Members

end FieldGate.Pattern.Bracket
