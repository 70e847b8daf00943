import FieldGate.Proofs.Canonical
import FieldGate.Proofs.HandlerTable
import FieldGate.Proofs.Spelling

/-! What a stricter configuration accepts, a laxer one accepts with the same outcome. Every stage of
a build keeps what it makes when the configuration is relaxed. -/
namespace FieldGate

section Within

variable {ε δ α β : Type} {x y : Except ε α} {f g : α → Except ε β}

/-- What the first yields, the second yields too. -/
def Within (x y : Except ε α) : Prop := ∀ a, x = .ok a → y = .ok a

theorem Within.refl (x : Except ε α) : Within x x := fun _ => id

theorem within_error (e : ε) (y : Except ε α) : Within (.error e) y := by
  intro a h
  cases h

theorem Within.bind (h : Within x y) (hf : ∀ a, Within (f a) (g a)) :
    Within (x >>= f) (y >>= g) := by
  intro b hb
  obtain ⟨a, ha, hb⟩ := bind_eq_ok_iff.mp hb
  exact bind_eq_ok_iff.mpr ⟨a, h a ha, hf a b hb⟩

theorem Within.mapError (h : Within x y) (f : ε → δ) : Within (x.mapError f) (y.mapError f) := by
  intro a ha
  rw [mapError_eq_ok_iff] at ha ⊢
  exact h a ha

theorem within_mapM (hf : ∀ a, Within (f a) (g a)) (as : List α) :
    Within (as.mapM f) (as.mapM g) := by
  intro bs hbs
  rw [mapM_eq_ok_iff] at hbs ⊢
  exact hbs.imp fun a b => hf a b

end Within

/-- A configuration checks handler conditions if the other does, and it forbids what the other
forbids: variadic handlers, and blanks around references. -/
structure Config.AtLeastAsStrict (c k : Config) : Prop where
  conditions : k.strictHandlerConditions = true → c.strictHandlerConditions = true
  variadic : k.allowVariadicHandlers = false → c.allowVariadicHandlers = false
  trim : k.trimReferences = false → c.trimReferences = false

section References

variable {s : Schema} {trim trim' : Bool}

theorem RawReference.scan_within (h : trim' = false → trim = false) (text : List Char) :
    Within (scan trim text) (scan trim' text) := by
  intro raw hraw
  cases trim with
  | true =>
    cases trim' with
    | true => exact hraw
    | false => cases h rfl
  | false =>
    cases trim' with
    | true => exact scan_trimmed hraw
    | false => exact hraw

namespace Schema

theorem parse_within (h : trim' = false → trim = false) (base : TypeId) (text : String) :
    Within (s.parse trim base text) (s.parse trim' base text) := by
  intro r hr
  obtain ⟨raw, id, t, hraw, hresolved⟩ := parse_eq_ok_iff.mp hr
  exact parse_eq_ok_iff.mpr ⟨raw, id, t, RawReference.scan_within h _ raw hraw, hresolved⟩

theorem parseField_within (h : trim' = false → trim = false) (base : TypeId) (text : String) :
    Within (s.parseField trim base text) (s.parseField trim' base text) := by
  intro r hr
  unfold parseField at hr ⊢
  split at hr
  · cases hr
  · rename_i hparse
    rw [parse_within h _ _ _ hparse]
    exact hr
  · cases hr

end Schema

end References

theorem Signature.Callable.relax {s : Signature} {c k : Config} (h : s.Callable c)
    (hk : c.AtLeastAsStrict k) : s.Callable k where
  returns := h.returns
  static := h.static
  total := h.total
  fixed := by
    intro hvariadic
    cases hallow : k.allowVariadicHandlers with
    | true => rfl
    | false => exact (hk.variadic hallow).symm.trans (h.fixed hvariadic)

namespace HandlerTable

variable {c : Context} {k : Config}

private theorem constArguments_within (hk : c.config.AtLeastAsStrict k) (owner : TypeId)
    (key : String) (texts : List String) :
    Within (constArguments c owner key texts)
      (constArguments { c with config := k } owner key texts) := by
  induction texts with
  | nil => exact .refl _
  | cons text texts ih =>
    intro bs h
    unfold constArguments at h ⊢
    split at h
    · cases h
    · rename_i r hr
      split at h
      · cases h
      · rename_i e he
        obtain ⟨bs, hbs, rfl⟩ := map_eq_ok_iff.mp h
        simp only [Schema.parseField_within hk.trim _ _ _ hr, he, ih bs hbs, Except.map]

variable [PatternEngine]

private theorem makeHandler_within (hk : c.config.AtLeastAsStrict k) (m : MethodDef)
    (spec : HandlerSpec) :
    Within (makeHandler c m spec).result (makeHandler { c with config := k } m spec).result := by
  intro h hmake
  unfold makeHandler at hmake ⊢
  dsimp only at hmake ⊢
  split at hmake
  · cases hmake
  · cases hmake
  · rename_i bs hvalid hconst
    have hcallable := (Signature.validate_eq_ok_iff.mp hvalid).relax hk
    rw [Signature.validate_eq_ok_iff.mpr hcallable, constArguments_within hk _ _ _ bs hconst]
    exact hmake

theorem build_within (hk : c.config.AtLeastAsStrict k) :
    Within (build c).result (build { c with config := k }).result := by
  intro t ht
  obtain ⟨hmakes, hagrees⟩ := build_eq_ok_iff.mp ht
  refine build_eq_ok_iff.mpr ⟨hmakes.imp ?_, hagrees⟩
  intro m h ⟨spec, hspec, hmake⟩
  exact ⟨spec, hspec, makeHandler_within hk m spec h hmake⟩

end HandlerTable

namespace Definition

variable [PatternEngine] {c : Context} {k : Config} {s : Schema} {trim trim' : Bool}

private theorem parseClause_within (h : trim' = false → trim = false) (f : FieldId)
    (d : Dependency) : Within (parseClause s trim f d) (parseClause s trim' f d) := by
  unfold parseClause
  refine .bind (within_mapM (fun t => (Schema.parse_within h _ t).mapError _) _) fun targets => ?_
  refine .bind (within_mapM (fun t => (Schema.parseField_within h _ t).mapError _) _) fun args => ?_
  exact .refl _

theorem parse_within (h : trim' = false → trim = false) (f : FieldId) (d : Declaration) :
    Within (parse s trim f d) (parse s trim' f d) :=
  .bind (within_mapM (parseClause_within h f) _) fun _ => .refl _

theorem parseAll_within (h : trim' = false → trim = false) (d : FieldDef) :
    Within (parseAll s trim d) (parseAll s trim' d) :=
  within_mapM (parse_within h d.id) _

private theorem handlerGate_within (hk : c.config.AtLeastAsStrict k) (owner : String)
    (clause : Clause) (id : MethodId) (text : String) :
    Within (handlerGate c owner clause id text).result
      (handlerGate { c with config := k } owner clause id text).result := by
  rw [result_handlerGate, result_handlerGate]
  dsimp only
  cases c.handlers.get? id with
  | none => exact .refl _
  | some h =>
    dsimp only
    by_cases hstrict : (clause.hasConditions && c.config.strictHandlerConditions) = true
    · rw [if_pos hstrict]
      exact within_error _ _
    · have hlax : ¬ (clause.hasConditions && k.strictHandlerConditions) = true := by
        intro hboth
        rw [Bool.and_eq_true] at hstrict hboth
        exact hstrict ⟨hboth.1, hk.conditions hboth.2⟩
      rw [if_neg hstrict, if_neg hlax]
      exact .refl _

private theorem clauseGate_within (hk : c.config.AtLeastAsStrict k) (owner : String)
    (clause : Clause) :
    Within (clauseGate c owner clause).result
      (clauseGate { c with config := k } owner clause).result := by
  have htarget (r : Reference) : Within (targetGate c owner clause r).result
      (targetGate { c with config := k } owner clause r).result := by
    unfold targetGate
    cases r.target with
    | method id => exact handlerGate_within hk owner clause id r.text
    | field t => exact .refl _
  unfold clauseGate
  split
  · exact .refl _
  · simp only [Noted.result_andThen, Noted.result_each]
    exact .bind (within_mapM htarget _) fun _ => .refl _

theorem gate_within (hk : c.config.AtLeastAsStrict k) (d : Definition) :
    Within (gate c d).result (gate { c with config := k } d).result := by
  unfold gate
  dsimp only
  split
  · exact .refl _
  · simp only [Noted.result_andThen, Noted.result_each]
    exact .bind (within_mapM (clauseGate_within hk _) _) fun _ => .refl _

end Definition

namespace Manager

variable [PatternEngine] {c : Definition.Context} {k : Config} {m : Manager}

private theorem resolveField_within (hk : c.config.AtLeastAsStrict k) (f : FieldId) :
    Within (resolveField c f).result (resolveField { c with config := k } f).result := by
  unfold resolveField
  dsimp only
  cases c.schema.field? f with
  | none => exact .refl _
  | some d =>
    simp only [Noted.result_andThen, Noted.result_ofExcept, Noted.result_each]
    refine .bind (Definition.parseAll_within hk.trim d) fun ds => within_mapM (fun d => ?_) _
    exact .bind (Definition.gate_within hk d) fun _ => .refl _

private theorem resolveEach_within (hk : c.config.AtLeastAsStrict k) (known : Resolved)
    (fs : List FieldId) :
    Within (resolveEach c known fs).result
      (resolveEach { c with config := k } known fs).result := by
  induction fs generalizing known with
  | nil => exact .refl _
  | cons f fs ih =>
    unfold resolveEach
    split
    · exact ih known
    · simp only [Noted.result_andThen]
      exact .bind (resolveField_within hk f) fun gs => ih _

/-- Relaxing the configuration changes nothing of what resolves. -/
theorem resolve_within (hk : m.config.AtLeastAsStrict k) (typeOf : EntryId → ValueType) :
    Within (m.resolve typeOf).result ({ m with config := k }.resolve typeOf).result := by
  unfold resolve
  simp only [Noted.result_andThen, Noted.result_mapError]
  refine .bind ((HandlerTable.build_within hk).mapError _) fun table => ?_
  exact .bind (resolveEach_within hk [] _) fun known => .refl _

end Manager

namespace Manager

def withConfig (m : Manager) (k : Config) : Manager := { m with config := k }

private theorem declare_withConfig (m : Manager) (k : Config) (f : FieldId) (es : List EntryId) :
    (m.withConfig k).declare f es = (m.declare f es).withConfig k := by
  have hdeclares : (m.withConfig k).declares f = m.declares f := rfl
  unfold declare
  rw [hdeclares]
  split <;> rfl

private theorem guarded_withConfig (m next : Manager) (k : Config) (f : FieldId) :
    (m.withConfig k).guarded f (next.withConfig k) =
      (m.guarded f next).map fun m => m.withConfig k := by
  have hstate : (m.withConfig k).state = m.state := rfl
  unfold guarded
  rw [hstate]
  split <;> rfl

private theorem apply_withConfig (m : Manager) (k : Config) (r : Registration) :
    r.apply (m.withConfig k) = (r.apply m).map fun m => m.withConfig k := by
  cases r with
  | register f es =>
    simp only [Registration.apply, register, ← guarded_withConfig]
    have hrelease : (m.withConfig k).release f = (m.release f).withConfig k := rfl
    rw [hrelease, declare_withConfig]
    rfl
  | registerDeclared f es =>
    simp only [Registration.apply, registerDeclared, ← guarded_withConfig, declare_withConfig]
  | deregister f =>
    simp only [Registration.apply, deregister, ← guarded_withConfig]
    rfl

end Manager

namespace Surface

section Engine

variable [PatternEngine] {s : Surface} {k : Config}

def withConfig (s : Surface) (k : Config) : Surface :=
  { s with manager := s.manager.withConfig k }

/-- The configuration has no part in registration. -/
theorem run_withConfig (s : Surface) (k : Config) (h : List Registration) :
    (s.withConfig k).run (h.map .registration) = (s.run (h.map .registration)).withConfig k := by
  induction h using List.reverseRecOn with
  | nil => rfl
  | append_singleton h r ih =>
    rw [List.map_append, List.map_singleton, run_concat, run_concat, ih]
    have happly := Manager.apply_withConfig (s.run (h.map .registration)).manager k r
    unfold ask withConfig
    dsimp only
    rw [happly]
    cases r.apply (s.run (h.map .registration)).manager <;> rfl

/-- A build that reports under a configuration reports the same under a laxer one. -/
theorem ask_build_withConfig (hk : s.manager.config.AtLeastAsStrict k) {report : Report}
    (hb : (s.ask .build).answer = .report report) :
    ((s.withConfig k).ask .build).answer = .report report ∧
      ((s.withConfig k).ask .build).setters = (s.ask .build).setters ∧
      ((s.withConfig k).ask .build).surface.entries = (s.ask .build).surface.entries := by
  have hstate : (s.withConfig k).manager.state = s.manager.state := rfl
  have hentries : (s.withConfig k).entries = s.entries := rfl
  cases hs : s.manager.state with
  | resolved => simp [ask, Manager.build, hs] at hb
  | registering =>
    cases hr : (s.manager.resolve s.entries.typeOf).result with
    | error e => simp [ask, Manager.build, hs, hr] at hb
    | ok built =>
      have hr' : ((s.withConfig k).manager.resolve s.entries.typeOf).result = .ok built :=
        Manager.resolve_within hk _ built hr
      simp only [ask, Manager.build, hstate, hentries, hs, hr, hr', Answer.report.injEq] at hb ⊢
      exact ⟨hb, trivial, trivial⟩

def gateOf? (s : Surface) (e : EntryId) (a : Action) : Option Gate :=
  (s.entries.get? e).bind fun x => x.gate? a

/-- Whatever was registered: if a build reports under a configuration, then a build under a laxer
one gives the same report, calls the same setters, and leaves on each entry gates that check alike
whatever the live values are. -/
theorem report_of_stricter (sch : Schema) {c k : Config} (hk : c.AtLeastAsStrict k) (es : Entries)
    (h : List Registration) (report : Report) :
    let built := ((start sch c es).run (h.map .registration)).ask .build
    let built' := ((start sch k es).run (h.map .registration)).ask .build
    built.answer = .report report →
      built'.answer = .report report ∧ built'.setters = built.setters ∧
      ∀ e a live, (built'.surface.gateOf? e a).map (Gate.check · live) =
        (built.surface.gateOf? e a).map (Gate.check · live) := by
  intro built built' hb
  have hstart : start sch k es = (start sch c es).withConfig k := rfl
  have hconfig : ((start sch c es).run (h.map .registration)).manager.config = c := by
    obtain ⟨m, ht, hrun⟩ := run_registrations sch c es h
    rw [hrun]
    exact ht.config
  obtain ⟨hanswer, hsetters, hentries⟩ := ask_build_withConfig (hconfig ▸ hk) hb
  rw [← run_withConfig, ← hstart] at hanswer hsetters hentries
  refine ⟨hanswer, hsetters, ?_⟩
  intro e a live
  have hgate : built'.surface.gateOf? e a = built.surface.gateOf? e a := by
    unfold gateOf?
    rw [hentries]
  rw [hgate]

end Engine

open scoped Pattern.Engine

/-- A beacon has nothing in it that the strict configuration refuses. Under the laxest one it builds
to the same report and calls the same setter, and the gate on its glow lets through as before. -/
theorem lax_beacon_reports_alike :
    let h : List Registration :=
      [.register ⟨⟨0⟩, 0⟩ [⟨0⟩], .registerDeclared ⟨⟨0⟩, 1⟩ [⟨1⟩]]
    let built := ((start .beacon .strict beaconEntries).run (h.map .registration)).ask .build
    let built' := ((start .beacon {} beaconEntries).run (h.map .registration)).ask .build
    let live : Live := fun e => (beaconEntries.get? e).map Entry.value
    Config.strict.AtLeastAsStrict {} ∧ ∃ report i, built.answer = .report report ∧
      built'.answer = .report report ∧ built.setters = [i] ∧ built'.setters = [i] ∧
      i.entry = ⟨1⟩ ∧ i.action = .enable ∧ ∃ checked, checked.outcome = .ok true ∧
        (built.surface.gateOf? ⟨1⟩ .enable).map (Gate.check · live) = some checked ∧
        (built'.surface.gateOf? ⟨1⟩ .enable).map (Gate.check · live) = some checked := by
  intro h built built' live
  have hk : Config.strict.AtLeastAsStrict {} := ⟨fun _ => rfl, fun _ => rfl, fun _ => rfl⟩
  have hstrict : ∃ report i, built.answer = .report report ∧ built.setters = [i] ∧
      i.entry = ⟨1⟩ ∧ i.action = .enable := ⟨_, _, rfl, rfl, rfl, rfl⟩
  obtain ⟨report, i, hb, hsetters, hentry, haction⟩ := hstrict
  have hcheck : ∃ checked, checked.outcome = .ok true ∧
      (built.surface.gateOf? ⟨1⟩ .enable).map (Gate.check · live) = some checked :=
    ⟨_, rfl, rfl⟩
  obtain ⟨checked, houtcome, hcheck⟩ := hcheck
  obtain ⟨hb', hsetters', hcheck'⟩ := report_of_stricter .beacon hk beaconEntries h report hb
  refine ⟨hk, report, i, hb, hb', hsetters, hsetters'.trans hsetters, hentry, haction, checked,
    houtcome, hcheck, ?_⟩
  rw [← hcheck]
  exact hcheck' ⟨1⟩ .enable live

end Surface

end FieldGate
