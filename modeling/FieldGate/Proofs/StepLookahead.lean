import FieldGate.Pattern.Parser
import FieldGate.Proofs.BracketLookahead

/-! A step of the reader is the same with a closing text behind the pattern, and the same if the
pattern stands in groups. -/
namespace FieldGate.Pattern

namespace Progress

variable {p q : Progress} {f : Flags}

/-- The same progress in a pattern that stands in more groups. -/
def inside (ls : List Level) (p : Progress) : Progress := { p with outer := p.outer ++ ls }

def bottom (p : Progress) : Option (Option Nat) :=
  (p.level.number :: p.outer.map Level.number).getLast?

variable {ls : List Level}

theorem bottom_closeGroup? (h : p.closeGroup? = some q) : q.bottom = p.bottom := by
  unfold closeGroup? at h
  split at h
  · cases h
  · rename_i l outer houter
    cases h
    simp [bottom, houter, Level.push]

theorem bottom_repeat? {least : Nat} {most : Option Nat} {lazy : Bool}
    (h : p.repeat? least most lazy = some q) : q.bottom = p.bottom := by
  unfold repeat? at h
  split at h
  · cases h
  · cases h
  · cases h
    rfl

@[simp] theorem inside_level : (p.inside ls).level = p.level := rfl

@[simp] theorem inside_flags : (p.inside ls).flags = p.flags := rfl

@[simp] theorem inside_names : (p.inside ls).names = p.names := rfl

@[simp] theorem inside_nil (p : Progress) : p.inside [] = p := by
  rw [inside, List.append_nil]

theorem inside_closeGroup? (h : p.closeGroup? = some q) :
    (p.inside ls).closeGroup? = some (q.inside ls) := by
  unfold closeGroup? at h
  split at h
  · cases h
  · rename_i l outer houter
    cases h
    simp [closeGroup?, inside, houter]

theorem inside_repeat? (p : Progress) (ls : List Level) (least : Nat) (most : Option Nat)
    (lazy : Bool) :
    (p.inside ls).repeat? least most lazy = (p.repeat? least most lazy).map (inside ls) := by
  unfold repeat?
  rw [inside_level]
  split
  · rfl
  · rfl
  · rfl

end Progress

section Steps

variable {p q : Progress} {f g : Flags} {cs rest z : List Char} {ls : List Level}

theorem flagLetters?_append {seen seen' : List Char}
    (h : flagLetters? f seen cs = some (g, seen', rest)) :
    rest <:+ cs ∧ ∀ z, flagLetters? f seen (cs ++ z) = some (g, seen', rest ++ z) := by
  induction cs generalizing f seen with
  | nil => cases h
  | cons c cs ih =>
    simp only [List.cons_append]
    unfold flagLetters? at h ⊢
    split_ifs at h ⊢
    · cases h
      exact ⟨List.suffix_refl _, fun _ => rfl⟩
    · obtain ⟨hsuffix, happend⟩ := ih h
      exact ⟨hsuffix.trans (List.suffix_cons c cs), happend⟩
    · split at h
      · obtain ⟨hsuffix, happend⟩ := ih h
        exact ⟨hsuffix.trans (List.suffix_cons c cs), happend⟩
      · cases h

theorem groupName?_firm : Firm groupName? := by
  intro cs name rest h
  unfold groupName? at h
  split at h
  · rename_i c tail sign rest' htake hdrop
    split_ifs at h with hname
    cases h
    have hsuffix : cs.dropWhile (· != '>') <:+ cs := List.dropWhile_suffix _
    have hne : cs.dropWhile (· != '>') ≠ [] := by
      rw [hdrop]
      exact List.cons_ne_nil sign rest
    rw [hdrop] at hsuffix
    refine ⟨(List.suffix_cons sign rest).trans hsuffix, fun z _ => ?_⟩
    simp only [groupName?, takeWhile_append_of_ne_nil hne, dropWhile_append_of_ne_nil hne, htake,
      hdrop, List.cons_append, if_pos hname]
  · cases h

theorem openNamed?_firm (p : Progress) : Firm (openNamed? p) := by
  intro cs q rest h
  unfold openNamed? at h
  split at h
  · rename_i name tail hname
    split_ifs at h with hold
    cases h
    obtain ⟨hsuffix, happend⟩ := groupName?_firm cs name _ hname
    refine ⟨hsuffix, fun z hz => ?_⟩
    simp only [openNamed?, happend z hz, if_neg hold]
  · cases h

/-- A group sign with flags, for a group of its own or for the rest of the group it is in. -/
def openFlagged? (p : Progress) (cs : List Char) : Option (Progress × List Char) :=
  match flagLetters? p.flags [] cs with
  | some (f, _, ':' :: rest) => some (p.openGroup f, rest)
  | some (f, _ :: _, ')' :: rest) => some (p.setFlags f, rest)
  | _ => none

theorem openFlagged?_firm (p : Progress) : Firm (openFlagged? p) := by
  intro cs q rest h
  unfold openFlagged? at h
  split at h
  · rename_i g seen tail hflags
    cases h
    obtain ⟨hds, happend⟩ := flagLetters?_append hflags
    refine ⟨(List.suffix_cons _ _).trans hds, fun z _ => ?_⟩
    rw [openFlagged?, happend z]
    rfl
  · rename_i g sign seen tail hflags
    cases h
    obtain ⟨hds, happend⟩ := flagLetters?_append hflags
    refine ⟨(List.suffix_cons _ _).trans hds, fun z _ => ?_⟩
    rw [openFlagged?, happend z]
    rfl
  · cases h

theorem openGroup?_steady (p : Progress) : Steady (openGroup? p) := by
  intro cs q rest h
  unfold openGroup? at h
  cases hskip : p.flags.skip cs with
  | nil =>
    -- the pattern ends with the group sign, and with blanks and comments after it
    rw [hskip] at h
    cases h
    obtain ⟨lost, hleaves, happend⟩ := p.flags.skip_closing cs
    rw [hskip] at hleaves happend
    refine ⟨lost, hleaves, fun z hz => ?_⟩
    unfold openGroup?
    rw [happend z hz]
    obtain ⟨y, rfl, -, -⟩ := hz
    cases lost with
    | false => rfl
    | true => rfl
  | cons c more =>
    obtain ⟨hsuffix, hskip'⟩ := p.flags.skip_eq_cons hskip
    have hsigns (sign : List Char) {ds : List Char} (heq : c :: more = sign ++ ds)
        (hds : rest <:+ ds) : Leaves cs rest false :=
      ⟨(hds.trans (heq ▸ List.suffix_append sign ds)).trans hsuffix, nofun⟩
    rw [hskip] at h
    split at h
    · cases h
    · cases h
    · cases h
    · cases h
    · rename_i ds heq
      cases heq
      obtain ⟨hds, happend⟩ := openNamed?_firm p ds q rest h
      refine ⟨false, hsigns ['?', 'P', '<'] rfl hds, fun z hz => ?_⟩
      unfold openGroup?
      rw [hskip']
      exact happend z hz
    · rename_i ds hahead hnotahead heq
      cases heq
      obtain ⟨hds, happend⟩ := openNamed?_firm p ds q rest h
      refine ⟨false, hsigns ['?', '<'] rfl hds, fun z hz => ?_⟩
      have hahead' := hz.append_ne hahead (by decide)
      have hnotahead' := hz.append_ne hnotahead (by decide)
      rw [openGroup?.eq_def, hskip']
      simp only [List.cons_append]
      exact happend z hz
    · rename_i hahead hnotahead _ _ hcapital hname heq
      cases heq
      obtain ⟨hds, happend⟩ := openFlagged?_firm p more q rest h
      refine ⟨false, hsigns ['?'] rfl hds, fun z hz => ?_⟩
      -- the closing text makes no other sign of the question mark
      have hahead' := hz.append_ne hahead (by decide)
      have hnotahead' := hz.append_ne hnotahead (by decide)
      have hname' := hz.append_ne hname (by decide)
      have hequals (ds : List Char) : more ++ z ≠ '<' :: '=' :: ds := hname' _
      have hmark (ds : List Char) : more ++ z ≠ '<' :: '!' :: ds := hname' _
      have hcapital' (ds : List Char) : more ++ z ≠ 'P' :: '<' :: ds := by
        intro heq
        obtain ⟨es, rfl⟩ := hz.eq_cons heq (by decide)
        obtain ⟨ds, rfl⟩ := hz.eq_cons (List.cons.inj heq).2 (by decide)
        exact hcapital ds rfl
      rw [openGroup?.eq_def, hskip']
      simp only []
      exact happend z hz
    · rename_i hsign
      cases h
      have hc : c ≠ '?' := by
        rintro rfl
        exact hsign more rfl
      refine ⟨false, ⟨hsuffix, nofun⟩, fun z hz => ?_⟩
      unfold openGroup?
      rw [hskip']
      split
      case h_8 => rfl
      all_goals
        rename_i heq
        exact absurd (List.cons.inj heq).1 hc

theorem takeLazy_append (hz : Closing z) (cs : List Char) :
    takeLazy (cs ++ z) = ((takeLazy cs).1, (takeLazy cs).2 ++ z) := by
  by_cases hsign : ∃ rest, cs = '?' :: rest
  · obtain ⟨rest, rfl⟩ := hsign
    rfl
  · have hplain (ds : List Char) : cs ≠ '?' :: ds := fun heq => hsign ⟨ds, heq⟩
    have hplain' := hz.append_ne hplain (by decide)
    simp only [takeLazy]

theorem takeLazy_suffix (cs : List Char) : (takeLazy cs).2 <:+ cs := by
  unfold takeLazy
  split
  · exact List.suffix_cons _ _
  · exact List.suffix_refl _

theorem repeatLast?_firm (p : Progress) (least : Nat) (most : Option Nat) :
    Firm (repeatLast? p least most) := by
  intro cs q rest h
  have hsuffix := takeLazy_suffix cs
  cases hlazy : takeLazy cs with
  | mk lazy tail =>
    rw [hlazy] at hsuffix
    simp only [repeatLast?, hlazy] at h
    obtain ⟨p', hrepeat, heq⟩ := Option.map_eq_some_iff.mp h
    cases heq
    refine ⟨hsuffix, fun z hz => ?_⟩
    simp only [repeatLast?, takeLazy_append hz, hlazy, hrepeat, Option.map_some]

theorem count?_nil (f : Flags) : count? f [] = none := by
  simp [count?, takeSpaced_nil]

theorem bounds?_append {least : Nat} {most : Option Nat}
    (h : bounds? f cs = some (least, most, rest)) :
    rest <:+ cs ∧ ∀ z, bounds? f (cs ++ z) = some (least, most, rest ++ z) := by
  obtain ⟨⟨n, tail⟩, hleast, h⟩ := Option.bind_eq_some_iff.mp h
  have hskip : f.skip cs ≠ [] := by
    intro hnil
    rw [hnil, count?_nil] at hleast
    cases hleast
  cases tail with
  | nil => cases h
  | cons c more =>
    obtain ⟨htail, hleast'⟩ := count?_append hleast
    have hsuffix : c :: more <:+ cs := htail.trans (f.skip_suffix cs)
    by_cases hbrace : c = '}'
    · subst hbrace
      cases h
      refine ⟨(List.suffix_cons _ _).trans hsuffix, fun z => ?_⟩
      simp only [bounds?, f.skip_append hskip, hleast' z, Option.bind_eq_bind, Option.bind_some,
        List.cons_append]
    · by_cases hcomma : c = ','
      · subst hcomma
        simp only [] at h
        cases hmore : f.skip more with
        | nil =>
          simp only [hmore, count?_nil] at h
          cases h
        | cons d ds =>
          obtain ⟨hds, hmore'⟩ := f.skip_eq_cons hmore
          have hbehind : d :: ds <:+ cs := (hds.trans (List.suffix_cons _ _)).trans hsuffix
          rw [hmore] at h
          by_cases hend : d = '}'
          · subst hend
            cases h
            refine ⟨(List.suffix_cons _ _).trans hbehind, fun z => ?_⟩
            simp only [bounds?, f.skip_append hskip, hleast' z, Option.bind_eq_bind,
              Option.bind_some, List.cons_append, hmore' z]
          · split at h
            · rename_i heq
              cases heq
              exact absurd rfl hend
            · obtain ⟨⟨n', tail⟩, hmost, h⟩ := Option.bind_eq_some_iff.mp h
              dsimp only at h
              split at h
              · split_ifs at h with hle
                cases h
                obtain ⟨htail, hmost'⟩ := count?_append hmost
                refine ⟨((List.suffix_cons _ _).trans htail).trans hbehind, fun z => ?_⟩
                have hmost' : count? f (d :: (ds ++ z)) = some (n', '}' :: (rest ++ z)) := hmost' z
                simp [bounds?, f.skip_append hskip, hleast' z, hmore' z, hend, hmost', hle]
              · cases h
      · simp [hbrace, hcomma] at h

def repeatCounted? (p : Progress) (cs : List Char) : Option (Progress × List Char) :=
  match bounds? p.flags cs with
  | some (least, most, rest) => repeatLast? p least most (p.flags.skip rest)
  | none => none

theorem repeatCounted?_steady (p : Progress) : Steady (repeatCounted? p) := by
  let readBounds (cs : List Char) : Option ((Nat × Option Nat) × List Char) :=
    (bounds? p.flags cs).map fun (least, most, rest) => ((least, most), rest)
  have hbounds : Firm readBounds := by
    intro cs b rest h
    obtain ⟨⟨least, most, tail⟩, hread, heq⟩ := Option.map_eq_some_iff.mp h
    cases heq
    obtain ⟨hsuffix, happend⟩ := bounds?_append hread
    exact ⟨hsuffix, fun z _ => congrArg (Option.map _) (happend z)⟩
  have hrepeat : repeatCounted? p = fun cs => (readBounds cs).bind fun (bounds, rest) =>
      repeatLast? p bounds.1 bounds.2 (p.flags.skip rest) := by
    funext cs
    unfold repeatCounted?
    simp only [readBounds]
    cases bounds? p.flags cs <;> rfl
  rw [hrepeat]
  exact hbounds.steady.bind fun bounds =>
    (repeatLast?_firm p bounds.1 bounds.2).steady.after_skip p.flags

def Progress.pushEscaped (p : Progress) : Escaped → Progress
  | .char c => p.pushChar c
  | .set s => p.pushSet s
  | .look l => p.push (.look l)

theorem Progress.inside_pushEscaped (p : Progress) (ls : List Level) (e : Escaped) :
    (p.inside ls).pushEscaped e = (p.pushEscaped e).inside ls := by
  cases e with
  | char | set | look => rfl

def insideToo (ls : List Level) (r : Progress × List Char) : Progress × List Char :=
  (r.1.inside ls, r.2)

theorem openNamed?_inside (p : Progress) (ls : List Level) (cs : List Char) :
    openNamed? (p.inside ls) cs = (openNamed? p cs).map (insideToo ls) := by
  unfold openNamed?
  rw [Progress.inside_names]
  split
  · split_ifs
    · rfl
    · rfl
  · rfl

theorem openFlagged?_inside (p : Progress) (ls : List Level) (cs : List Char) :
    openFlagged? (p.inside ls) cs = (openFlagged? p cs).map (insideToo ls) := by
  unfold openFlagged?
  rw [Progress.inside_flags]
  split
  · rfl
  · rfl
  · rfl

theorem openGroup?_inside (p : Progress) (ls : List Level) (cs : List Char) :
    openGroup? (p.inside ls) cs = (openGroup? p cs).map (insideToo ls) := by
  unfold openGroup?
  rw [Progress.inside_flags]
  split
  · rfl
  · rfl
  · rfl
  · rfl
  · exact openNamed?_inside p ls _
  · exact openNamed?_inside p ls _
  · exact openFlagged?_inside p ls _
  · rfl

theorem repeatLast?_inside (p : Progress) (ls : List Level) (least : Nat) (most : Option Nat)
    (cs : List Char) :
    repeatLast? (p.inside ls) least most cs = (repeatLast? p least most cs).map (insideToo ls) := by
  simp only [repeatLast?, Progress.inside_repeat?, Option.map_map]
  rfl

theorem repeatCounted?_inside (p : Progress) (ls : List Level) (cs : List Char) :
    repeatCounted? (p.inside ls) cs = (repeatCounted? p cs).map (insideToo ls) := by
  unfold repeatCounted?
  rw [Progress.inside_flags]
  split
  · exact repeatLast?_inside p ls _ _ _
  · rfl

theorem openNamed?_bottom (h : openNamed? p cs = some (q, rest)) : q.bottom = p.bottom := by
  unfold openNamed? at h
  split at h
  · split_ifs at h
    cases h
    rfl
  · cases h

theorem openFlagged?_bottom (h : openFlagged? p cs = some (q, rest)) : q.bottom = p.bottom := by
  unfold openFlagged? at h
  split at h
  · cases h
    rfl
  · cases h
    rfl
  · cases h

theorem openGroup?_bottom (h : openGroup? p cs = some (q, rest)) : q.bottom = p.bottom := by
  unfold openGroup? at h
  split at h
  · cases h
  · cases h
  · cases h
  · cases h
  · exact openNamed?_bottom h
  · exact openNamed?_bottom h
  · exact openFlagged?_bottom h
  · cases h
    rfl

theorem repeatLast?_bottom {least : Nat} {most : Option Nat}
    (h : repeatLast? p least most cs = some (q, rest)) : q.bottom = p.bottom := by
  obtain ⟨p', hrepeat, heq⟩ := Option.map_eq_some_iff.mp h
  cases heq
  exact Progress.bottom_repeat? hrepeat

section Reading

variable [Dialect]

def bracket? (f : Flags) (cs : List Char) : Option (CharSet × List Char) :=
  let (b, rest) := Bracket.opened f cs
  b.read? f (rest.length + 1) [] rest

theorem bracket?_firm (f : Flags) : Firm (bracket? f) := by
  intro cs s rest h
  cases hopen : Bracket.opened f cs with
  | mk b tail =>
    simp only [bracket?, hopen] at h
    obtain ⟨htail, hopen'⟩ := Bracket.opened_append hopen (Bracket.skip_of_read? h)
    have hread (z : List Char) := Bracket.read?_append h (m := (tail ++ z).length + 1) (by simp)
    refine ⟨(hread []).1.trans htail, fun z hz => ?_⟩
    simp only [bracket?, hopen' z, (hread z).2 z hz]

theorem step?_bracket (p : Progress) (cs : List Char) :
    step? p ('[' :: cs) = (bracket? p.flags cs).map fun (s, rest) => (p.pushSet s, rest) := by
  rw [step?]
  rfl

theorem step?_escape (p : Progress) (cs : List Char) :
    step? p ('\\' :: cs) = (escape? p.flags cs).map fun (e, rest) => (p.pushEscaped e, rest) := by
  rw [step?]
  cases escape? p.flags cs with
  | none => rfl
  | some e =>
    obtain ⟨_ | _ | _, rest⟩ := e
    · rfl
    · rfl
    · rfl

theorem step?_steady (p : Progress) : Steady (step? p) := by
  intro cs q rest h
  cases cs with
  | nil => cases h
  | cons c cs =>
    have hstep := h
    unfold step? at h
    split at h
    · cases h
    case h_14 heq =>
      cases heq
      exact (firm_pure _).steady.cons h fun ds => by rw [step?] <;> assumption
    all_goals
      rename_i heq
      cases heq
    · exact (openGroup?_steady p).cons h fun ds => by rw [step?]
    · exact (firm_option p.closeGroup?).steady.cons h fun ds => by rw [step?]
    · exact (firm_pure _).steady.cons h fun ds => by rw [step?]
    · exact ((bracket?_firm p.flags).steady.map p.pushSet).cons h (step?_bracket p)
    · exact (repeatLast?_firm p 0 (some 1)).steady.cons h fun ds => by rw [step?]
    · exact (repeatLast?_firm p 0 none).steady.cons h fun ds => by rw [step?]
    · exact (repeatLast?_firm p 1 none).steady.cons h fun ds => by rw [step?]
    · exact (repeatCounted?_steady p).cons h fun ds => by rw [step?]; rfl
    · rw [step?_escape] at hstep
      exact ((escape?_steady p.flags).map p.pushEscaped).cons hstep (step?_escape p)
    · exact ((firm_option (dot? p.flags)).steady.map p.pushSet).cons
        (by rw [Option.map_map]; exact h) fun ds => by rw [step?, Option.map_map]; rfl
    all_goals exact (firm_pure _).steady.cons h fun ds => by rw [step?]

/-- A step in a pattern is the same step if the pattern stands in groups: it sees no group around
its own, and ends none of them. -/
theorem step?_inside (h : step? p cs = some (q, rest)) (ls : List Level) :
    step? (p.inside ls) cs = some (q.inside ls, rest) := by
  have hsame {r r' : Option (Progress × List Char)} (hr : r = some (q, rest))
      (hr' : r' = r.map (insideToo ls)) : r' = some (q.inside ls, rest) := by
    rw [hr', hr]
    rfl
  have hstep := h
  unfold step? at h
  split at h
  · cases h
  · exact hsame h (openGroup?_inside p ls _)
  · obtain ⟨p', hclose, heq⟩ := Option.map_eq_some_iff.mp h
    cases heq
    rw [step?, Progress.inside_closeGroup? hclose, Option.map_some]
  · cases h
    rfl
  · rw [step?_bracket] at hstep ⊢
    refine hsame hstep ?_
    rw [Option.map_map]
    rfl
  · exact hsame h (repeatLast?_inside p ls _ _ _)
  · exact hsame h (repeatLast?_inside p ls _ _ _)
  · exact hsame h (repeatLast?_inside p ls _ _ _)
  · exact hsame h (repeatCounted?_inside p ls _)
  · rw [step?_escape] at hstep ⊢
    obtain ⟨⟨e, tail⟩, hescape, heq⟩ := Option.map_eq_some_iff.mp hstep
    cases heq
    rw [Progress.inside_flags, hescape, Option.map_some]
    exact congrArg (fun r => some (r, rest)) (p.inside_pushEscaped ls e)
  · obtain ⟨s, hdot, heq⟩ := Option.map_eq_some_iff.mp h
    cases heq
    rw [step?, Progress.inside_flags, hdot]
    rfl
  · cases h
    rfl
  · cases h
    rfl
  · cases h
    rw [step?] <;> first | rfl | assumption

/-- A step opens a group, ends one or stays in one, and never ends the outermost. -/
theorem step?_bottom (h : step? p cs = some (q, rest)) : q.bottom = p.bottom := by
  have hstep := h
  unfold step? at h
  split at h
  · cases h
  · exact openGroup?_bottom h
  · obtain ⟨p', hclose, heq⟩ := Option.map_eq_some_iff.mp h
    cases heq
    exact Progress.bottom_closeGroup? hclose
  · cases h
    rfl
  · obtain ⟨⟨s, tail⟩, -, heq⟩ := Option.map_eq_some_iff.mp h
    cases heq
    rfl
  · exact repeatLast?_bottom h
  · exact repeatLast?_bottom h
  · exact repeatLast?_bottom h
  · split at h
    · exact repeatLast?_bottom h
    · cases h
  · rw [step?_escape] at hstep
    obtain ⟨⟨e, tail⟩, -, heq⟩ := Option.map_eq_some_iff.mp hstep
    cases heq
    cases e with
    | char | set | look => rfl
  · obtain ⟨s, -, heq⟩ := Option.map_eq_some_iff.mp h
    cases heq
    rfl
  · cases h
    rfl
  · cases h
    rfl
  · cases h
    rfl

end Reading

end Steps

end FieldGate.Pattern
