import FieldGate.Proofs.HandlerTable
import FieldGate.Proofs.Positions

/-! How handlers are called. A gate that is bound to a handler runs its body at most once in a
check, on the values of the constant arguments, of the site and of its literals, and not at all
where one of its entries is gone. -/
namespace FieldGate

/-- What a question passes to the body of a handler, if it runs one. -/
def Question.called? [PatternEngine] (live : Live) : Question → Option (MethodId × List Value)
  | .call k => (Argument.readAll live k.arguments).toOption.map fun values =>
      (k.method, k.pack values)
  | _ => none

/-- The bodies that a check of a gate runs, in order, each with what it is passed. -/
def Gate.calls [PatternEngine] (g : Gate) (live : Live) : List (MethodId × List Value) :=
  (Gate.check g live).asked.filterMap (Question.called? live)

/-- These are the bodies that are noted to be run. -/
theorem Gate.invocations_eq [PatternEngine] (g : Gate) (live : Live) :
    g.invocations live = (g.calls live).map Prod.fst := by
  unfold invocations calls
  rw [List.map_filterMap]
  congr 1
  funext q
  cases q with
  | call k =>
    cases hread : Argument.readAll live k.arguments <;>
      simp [Question.invoked?, Question.called?, Call.runs, hread, Except.isOk, Except.toBool,
        Except.toOption]
  | _ => rfl

/-- The arguments that a body is passed: one value for each fixed parameter, and if it is variadic
one list of all that remain. -/
def Signature.Packs (s : Signature) (values args : List Value) : Prop :=
  if s.isVariadic then
    ∃ fixed rest, values = fixed ++ rest ∧ fixed.length = s.params.length ∧
      args = fixed ++ [.list rest]
  else values.length = s.params.length ∧ args = values

variable {live : Live}

theorem Signature.packs_passed {s : Signature} {values : List Value}
    (h : s.admits values.length = true) : s.Packs values (s.passed values) := by
  rw [admits_iff] at h
  unfold Packs passed
  split at h
  · rename_i hvariadic
    rw [if_pos hvariadic, if_pos hvariadic]
    refine ⟨_, _, (List.take_append_drop s.params.length values).symm, ?_, rfl⟩
    rw [List.length_take]
    omega
  · rename_i hfixed
    rw [if_neg hfixed, if_neg hfixed]
    exact ⟨h, rfl⟩

/-- Either all entries are there and their values are read before the literals, or the first that is
gone ends the reading. -/
theorem readAll_or_released (live : Live) (bs : List BoundEntry) (literals : List Value) :
    (∃ vs, List.Forall₂ (fun b v => live b.entry = some v) bs vs ∧
      Argument.readAll live (bs.map .entry ++ literals.map .literal) = .ok (vs ++ literals)) ∨
    ∃ before b after, bs = before ++ b :: after ∧ (∀ b' ∈ before, (live b'.entry).isSome) ∧
      live b.entry = none ∧
      Argument.readAll live (bs.map .entry ++ literals.map .literal) =
        .error (.entryReleased b.label) := by
  induction bs with
  | nil => exact .inl ⟨[], .nil, readAll_literals live literals⟩
  | cons b bs ih =>
    simp only [List.map_cons, List.cons_append, Argument.readAll, Argument.read]
    cases hb : live b.entry with
    | none => exact .inr ⟨[], b, bs, rfl, by simp, hb, rfl⟩
    | some v =>
      dsimp only
      rcases ih with ⟨vs, hvs, hread⟩ | ⟨before, b', after, rfl, hbefore, hgone, hread⟩
      · left
        rw [hread]
        exact ⟨v :: vs, .cons hb hvs, rfl⟩
      · right
        rw [hread]
        refine ⟨b :: before, b', after, rfl, ?_, hgone, rfl⟩
        rw [List.forall_mem_cons, hb]
        exact ⟨rfl, hbefore⟩

namespace Handler

variable [PatternEngine] {h : Handler} {bs : List BoundEntry} {literals : List Value}

/-- A check of a call in any state: its body is run once, or not at all where an entry is gone. -/
theorem call_cases (h : Handler) (bs : List BoundEntry) (literals : List Value) (live : Live)
    (hcount : h.signature.admits (bs.length + literals.length) = true) :
    let g : Gate := .leaf (.call (h.call (bs.map .entry ++ literals.map .literal)))
    (∃ vs args, List.Forall₂ (fun b v => live b.entry = some v) bs vs ∧
      h.signature.Packs (vs ++ literals) args ∧ g.calls live = [(h.method, args)] ∧
      g.outcome live = (h.body args).mapError (.handlerFailed h.key)) ∨
    ∃ before b after, bs = before ++ b :: after ∧ (∀ b' ∈ before, (live b'.entry).isSome) ∧
      live b.entry = none ∧ g.calls live = [] ∧
      g.outcome live = .error (.entryReleased b.label) := by
  intro g
  have hcalls : g.calls live =
      (Question.called? live (.call (h.call (bs.map .entry ++ literals.map .literal)))).toList := by
    change List.filterMap _ [_] = _
    rw [List.filterMap_cons, List.filterMap_nil]
    cases Question.called? live _ <;> rfl
  have houtcome : g.outcome live =
      (h.call (bs.map .entry ++ literals.map .literal)).answer live := rfl
  rw [hcalls, houtcome]
  rcases readAll_or_released live bs literals with
    ⟨vs, hvs, hread⟩ | ⟨before, b, after, hsplit, hbefore, hgone, hread⟩
  · left
    have hlength : (vs ++ literals).length = bs.length + literals.length := by
      rw [List.length_append, hvs.length_eq]
    rw [← hlength] at hcount
    refine ⟨vs, _, hvs, Signature.packs_passed hcount, ?_, ?_⟩
    · simp only [Question.called?, call, hread]
      rfl
    · simp only [Call.answer, call, hread]
      rfl
  · right
    refine ⟨before, b, after, hsplit, hbefore, hgone, ?_, ?_⟩
    · simp only [Question.called?, call, hread]
      rfl
    · simp only [Call.answer, call, hread]

end Handler

namespace HandlerTable

section Engine

variable [PatternEngine] {c : Context} {t : HandlerTable} {h : Handler}

/-- Whatever a handler of a table is bound to, each check of the gate either runs its body once,
with the values of the constant entries, of the site and of the literals in this order and packed
for its signature, or meets an entry that is gone, tells the first such and runs nothing. A handler
has a default gate just if its constant arguments are enough, and it is the gate that they are bound
to. -/
theorem calling_convention (ht : (build c).result = .ok t) (hh : h ∈ t.handlers) :
    (∀ site literals g, (h.bind c.typeOf site literals).result = .ok g →
      ∃ values, (h.signature.checkArguments
          ((h.constArguments ++ site).map fun b => c.typeOf b.entry) literals).result = .ok values ∧
        values.length = literals.length ∧
        ∀ live,
          (∃ vs args,
            List.Forall₂ (fun b v => live b.entry = some v) (h.constArguments ++ site) vs ∧
            h.signature.Packs (vs ++ values) args ∧ g.calls live = [(h.method, args)] ∧
            g.outcome live = (h.body args).mapError (.handlerFailed h.key)) ∨
          ∃ before b after, h.constArguments ++ site = before ++ b :: after ∧
            (∀ b' ∈ before, (live b'.entry).isSome) ∧ live b.entry = none ∧
            g.calls live = [] ∧ g.outcome live = .error (.entryReleased b.label)) ∧
    (h.default.isSome ↔ h.signature.admits h.constArguments.length = true) ∧
    ∀ g, h.default = some g →
      (h.bind c.typeOf [] []).result = .ok g ∧ (h.bindAll c.typeOf [] []).result = .ok g := by
  obtain ⟨hdefault, hbound⟩ := default_of_mem ht hh
  refine ⟨fun site literals g hbind => ?_, hdefault, fun g hg => ?_⟩
  · obtain ⟨values, hvalues, rfl⟩ := accepted_of_bind ht hh hbind
    have hpasses := Signature.checkArguments_eq_ok_iff_passes.mp hvalues
    have hcount := hpasses.count
    rw [List.length_map, ← hpasses.length_eq] at hcount
    exact ⟨values, hvalues, hpasses.length_eq, fun live => h.call_cases _ values live hcount⟩
  · exact ⟨Handler.bind_of_default hg c.typeOf, hbound g hg⟩

end Engine

open scoped Pattern.Engine

/-- The handler of a beacon, with the power of the beacon as its one argument. Its gate passes the
value of the power to the body, or tells that the power is gone. -/
theorem beacon_called_with_power :
    let c : Context := { schema := .beacon, config := {}, entries := ⟨[(⟨⟨0⟩, 0⟩, [⟨0⟩])]⟩
                         typeOf := fun _ => .bool }
    ∃ t h g, (build c).result = .ok t ∧ h ∈ t.handlers ∧ h.default = some g ∧ ∀ live : Live,
      (∃ v, live ⟨0⟩ = some v ∧ g.calls live = [(⟨⟨0⟩, 0⟩, [v])] ∧
        g.outcome live = (Builtin.isFalse [v]).mapError (.handlerFailed "Beacon#isOff")) ∨
      live ⟨0⟩ = none ∧ g.calls live = [] ∧ g.outcome live = .error (.entryReleased "power") := by
  intro c
  let h₀ : Handler :=
    { method := ⟨⟨0⟩, 0⟩, key := "Beacon#isOff", signature := .predicate [.exact .bool]
      body := Builtin.isFalse, constArguments := [⟨⟨0⟩, "power"⟩] }
  let g : Gate := .leaf (.call (h₀.call [.entry ⟨⟨0⟩, "power"⟩]))
  let h : Handler := { h₀ with default := some g }
  have ht : (build c).result = .ok ⟨[h], [("Beacon#isOff", ⟨⟨0⟩, 0⟩)]⟩ := rfl
  have hh : h ∈ [h] := List.mem_singleton_self h
  obtain ⟨hcalls, -, hdefault⟩ := calling_convention ht hh
  obtain ⟨values, -, hlength, hlive⟩ := hcalls [] [] g (hdefault g rfl).1
  obtain rfl := List.eq_nil_of_length_eq_zero hlength
  refine ⟨_, h, g, ht, hh, rfl, fun live => ?_⟩
  rcases hlive live with ⟨vs, args, hvs, hpacks, hcall, houtcome⟩ |
    ⟨before, b, after, hsplit, -, hgone, hcall, houtcome⟩
  · left
    obtain ⟨v, hv, rfl⟩ : ∃ v, live ⟨0⟩ = some v ∧ vs = [v] := by
      cases hvs with
      | cons hv hrest =>
        cases hrest
        exact ⟨_, hv, rfl⟩
    obtain ⟨-, rfl⟩ : [v].length = 1 ∧ args = [v] := hpacks
    exact ⟨v, hv, hcall, houtcome⟩
  · right
    obtain rfl : b = ⟨⟨0⟩, "power"⟩ := by
      have hmem : b ∈ h.constArguments ++ [] := by
        rw [hsplit]
        exact List.mem_append_right _ List.mem_cons_self
      exact List.mem_singleton.mp hmem
    exact ⟨hgone, hcall, houtcome⟩

end HandlerTable

end FieldGate
