import FieldGate.Condition
import FieldGate.Proofs.Enclosing
import FieldGate.Proofs.Marks
import FieldGate.Proofs.Noted
import FieldGate.Proofs.StandardEngine

/-! Patterns for whole texts. Each is compiled alone and then once more between the start and the
end of a text, and matches the texts of which it can match all. -/
namespace FieldGate

open Pattern (Dialect Tree parse? SignInLastLine)

/-- Between the start and the end of a text a pattern has to match all of it. -/
theorem Pattern.Tree.matchesIn_whole_iff (t : Tree) (cs : List Char) :
    (whole t).MatchesIn cs ↔ t.MatchesAll cs := by
  simp only [MatchesIn, whole, spans, spansInTurn, Relation.comp_eq]
  exact comp_start_stop_iff t.onward_spans cs

theorem anchored_toList (source : String) : (CompiledPattern.anchored source).toList =
    "^(?:".toList ++ source.toList ++ ")$".toList := by
  simp only [CompiledPattern.anchored, String.toList_append]

section Syntax

variable [Dialect] {source : String} {t : Tree}

/-- A pattern ends in a comment if it is one with a closing parenthesis behind it too. -/
def EndsInComment (source : String) : Prop := (parse? (source ++ ")").toList).isSome = true

instance : DecidablePred EndsInComment := fun source =>
  inferInstanceAs (Decidable ((parse? (source ++ ")").toList).isSome = true))

/-- Whether the pattern, if it can be read, is still not too large with the group and the conditions
around it. -/
def HasRoomAround (source : String) : Prop :=
  ∀ t, parse? source.toList = some t → Dialect.fits (Pattern.whole t)

def MatchesWhole (source text : String) : Prop :=
  ∃ t, parse? source.toList = some t ∧ t.MatchesAll text.toList

/-- What the anchored text of a pattern is read as. -/
theorem parse?_anchored (h : parse? source.toList = some t) :
    (EndsInComment source → SignInLastLine source.toList) ∧
      ∀ u, parse? (CompiledPattern.anchored source).toList = some u ↔
        ¬ EndsInComment source ∧ u = Pattern.whole t := by
  obtain ⟨lost, hsign, hbehind, hwhole⟩ := Pattern.parse?_enclosed h
  rw [← String.toList_append] at hbehind
  rw [anchored_toList, hwhole, EndsInComment, hbehind]
  cases lost with
  | false => exact ⟨nofun, fun u => by simp [eq_comm]⟩
  | true => exact ⟨fun _ => hsign rfl, fun u => by simp⟩

end Syntax

section Compiling

variable [PatternEngine] {source : String} {sources : List String} {q : CompiledPattern}
  {compiled : List CompiledPattern}

def Compiles (source : String) : Prop := ∃ code, PatternEngine.compile source = .ok code

theorem CompiledPattern.compile_eq_ok_iff : compile source = .ok q ↔
    ∃ code, PatternEngine.compile source = .ok code ∧ q = { source, code } := by
  rw [compile, map_eq_ok_iff]
  exact exists_congr fun code => and_congr_right fun _ => eq_comm

theorem CompiledPattern.exists_compile_iff : (∃ q, compile source = .ok q) ↔ Compiles source := by
  simp only [compile_eq_ok_iff]
  exact ⟨fun ⟨_, code, hcode, _⟩ => ⟨code, hcode⟩, fun ⟨code, hcode⟩ => ⟨_, code, hcode, rfl⟩⟩

/-- A pattern for whole texts has to compile on its own and with the conditions around it. -/
theorem CompiledPattern.compileWhole_eq_ok_iff : compileWhole source = .ok q ↔
    Compiles source ∧ compile (anchored source) = .ok q := by
  rw [← exists_compile_iff, compileWhole]
  cases compile source with
  | error e => simp
  | ok p => simp

/-- Patterns compile in turn, each to its own. -/
theorem compilePatterns_eq_ok_iff : compilePatterns sources = .ok compiled ↔
    List.Forall₂ (fun s q => CompiledPattern.compileWhole s = .ok q) sources compiled := by
  induction sources generalizing compiled with
  | nil => simp [compilePatterns, eq_comm]
  | cons s rest ih =>
    rw [compilePatterns, List.forall₂_cons_left_iff]
    split
    · rename_i q hq
      rw [map_eq_ok_iff]
      simp [hq, ih, eq_comm]
    · rename_i hs
      simp [hs]

end Compiling

section Standard

variable [PatternEngine] [Dialect] {source : String} {q : CompiledPattern}
  (hstandard : PatternEngine.IsStandard)

include hstandard

theorem PatternEngine.IsStandard.exists_tree (h : Compiles source) :
    ∃ t, parse? source.toList = some t := by
  obtain ⟨t, ht, -⟩ := (hstandard.compiles_iff source).mp h
  exact ⟨t, ht⟩

/-- What more it takes for whole texts: no comment at the end, and room for the group and its
conditions. -/
theorem PatternEngine.IsStandard.compileWhole_iff :
    (∃ q, CompiledPattern.compileWhole source = .ok q) ↔
      Compiles source ∧ ¬ EndsInComment source ∧ HasRoomAround source := by
  simp only [CompiledPattern.compileWhole_eq_ok_iff, exists_and_left]
  refine and_congr_right fun halone => ?_
  obtain ⟨t, ht⟩ := hstandard.exists_tree halone
  rw [CompiledPattern.exists_compile_iff, Compiles, hstandard.compiles_iff]
  constructor
  · rintro ⟨u, hu, hfits⟩
    obtain ⟨hcomment, rfl⟩ := ((parse?_anchored ht).2 u).mp hu
    refine ⟨hcomment, fun t' ht' => ?_⟩
    obtain rfl : t = t' := Option.some.inj (ht.symm.trans ht')
    exact hfits
  · rintro ⟨hcomment, hroom⟩
    exact ⟨_, ((parse?_anchored ht).2 _).mpr ⟨hcomment, rfl⟩, hroom t ht⟩

/-- A pattern for whole texts finds a match in a text just if it can match all of it alone. -/
theorem PatternEngine.IsStandard.matchesIn_iff (h : CompiledPattern.compileWhole source = .ok q)
    (text : String) : q.matchesIn text = true ↔ MatchesWhole source text := by
  obtain ⟨halone, hanchored⟩ := CompiledPattern.compileWhole_eq_ok_iff.mp h
  obtain ⟨code, hcode, rfl⟩ := CompiledPattern.compile_eq_ok_iff.mp hanchored
  obtain ⟨t, ht⟩ := hstandard.exists_tree halone
  obtain ⟨u, hu⟩ := hstandard.exists_tree ⟨code, hcode⟩
  obtain ⟨-, rfl⟩ := ((parse?_anchored ht).2 u).mp hu
  rw [CompiledPattern.matchesIn, hstandard.isMatch_iff hcode hu, Tree.matchesIn_whole_iff,
    MatchesWhole, ht]
  simp

theorem PatternEngine.IsStandard.signInLastLine (h : Compiles source)
    (hcomment : EndsInComment source) : SignInLastLine source.toList := by
  obtain ⟨t, ht⟩ := hstandard.exists_tree h
  exact (parse?_anchored ht).1 hcomment

/-- With a standard engine, patterns compile for whole texts if each compiles alone, none ends in a
comment that is still open and there is room around each. Only a pattern with a number sign in its
last line can end so. Then each matches the texts all of which it can match alone. -/
theorem compilePatterns_exactly (sources : List String) :
    ((∃ compiled, compilePatterns sources = .ok compiled) ↔
      ∀ s ∈ sources, Compiles s ∧ ¬ EndsInComment s ∧ HasRoomAround s) ∧
    (∀ s, Compiles s → EndsInComment s → SignInLastLine s.toList) ∧
    ∀ compiled, compilePatterns sources = .ok compiled →
      List.Forall₂ (fun s q => ∀ text, q.matchesIn text = true ↔ MatchesWhole s text)
        sources compiled := by
  refine ⟨?_, fun s => hstandard.signInLastLine, fun compiled h => ?_⟩
  · simp only [compilePatterns_eq_ok_iff, exists_forall₂_iff]
    exact forall₂_congr fun s _ => hstandard.compileWhole_iff
  · exact (compilePatterns_eq_ok_iff.mp h).imp fun s q hq => hstandard.matchesIn_iff hq

end Standard

section Marks

open Pattern.Engine

theorem compiles_iff_isSome {source : String} :
    Compiles source ↔ (compile? source).isSome = true := by
  rw [Option.isSome_iff_exists]
  constructor
  · rintro ⟨m, hm⟩
    obtain ⟨t, ht, hsmall, -⟩ := markingOf_eq_ok_iff.mp hm
    exact ⟨t, Option.filter_eq_some_iff.mpr ⟨ht, hsmall⟩⟩
  · rintro ⟨t, ht⟩
    obtain ⟨ht, hsmall⟩ := Option.filter_eq_some_iff.mp ht
    exact ⟨t.marking, markingOf_eq_ok_iff.mpr ⟨t, ht, hsmall, rfl⟩⟩

instance : DecidablePred Compiles := fun _ => decidable_of_iff _ compiles_iff_isSome.symm

instance : DecidablePred HasRoomAround := fun source =>
  inferInstanceAs (Decidable (∀ t ∈ parse? source.toList, (Pattern.whole t).isSmall = true))

/-- Both branches of a choice are anchored. -/
theorem choice_matches_whole_texts : ∃ q, compilePatterns ["ab|cd?"] = .ok [q] ∧
    MatchesWhole "ab|cd?" "ab" ∧ ¬ MatchesWhole "ab|cd?" "abd" := by
  obtain ⟨hcompiles, -, hmatches⟩ := compilePatterns_exactly isStandard ["ab|cd?"]
  obtain ⟨compiled, hok⟩ := hcompiles.mpr (by decide +kernel)
  have hfound : (compilePatterns ["ab|cd?"]).toOption.map
      (·.map fun q => (q.matchesIn "ab", q.matchesIn "abd")) = some [(true, false)] := by
    decide +kernel
  cases hmatches compiled hok with
  | cons hq hrest =>
    cases hrest
    rw [hok] at hfound
    simp only [Except.toOption, Option.map_some, List.map_cons, List.map_nil, Option.some.injEq,
      List.cons.injEq, Prod.mk.injEq, and_true] at hfound
    refine ⟨_, hok, (hq _).mp hfound.1, fun h => ?_⟩
    rw [(hq _).mpr h] at hfound
    cases hfound.2

/-- A pattern that compiles alone is refused where a comment takes the parenthesis behind it. -/
theorem open_comment_refused : Compiles "(?x)a#b" ∧
    compilePatterns ["(?x)a#b"] = .error (.invalidPattern "(?x)a#b" "<regex>") := by
  exact ⟨by decide +kernel, rfl⟩

end Marks

end FieldGate
