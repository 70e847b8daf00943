import FieldGate.Entry
import FieldGate.Proofs.Deregistration

/-! A manager with the entries that it puts gates on, under any sequence of requests. The first
build alone can call setters, and it calls them only if everything resolves. -/
namespace FieldGate

/-- What can be asked of a manager. -/
inductive Request
  | registration (r : Registration)
  | summary
  | build

section Engine

variable [PatternEngine]

/-- What a request is answered with. -/
inductive Answer
  | done
  | summary (s : Summary)
  | report (r : Report)
  | refused (e : BuildError)

/-- A manager with the entries whose setters it can call. -/
structure Surface where
  manager : Manager
  entries : Entries := {}

/-- What a request leaves behind, what it answers and which setters it calls. -/
structure Reply where
  surface : Surface
  answer : Answer
  setters : List Install

end Engine

namespace Surface

private theorem apply_of_resolved {m : Manager} (hm : m.state = .resolved) (r : Registration) :
    r.apply m = .error (.registrationClosed (m.schema.fieldKey r.field)) := by
  cases r <;> simp only [Registration.apply, Manager.register, Manager.registerDeclared,
    Manager.deregister, Manager.guarded, hm, Registration.field]

section Engine

variable [PatternEngine] {s : Surface} {q : Request} {before after : List Request}
  {sch : Schema} {c : Config} {h : List Registration}

def ask (s : Surface) : Request → Reply
  | .registration r =>
    match r.apply s.manager with
    | .ok m => ⟨{ s with manager := m }, .done, []⟩
    | .error e => ⟨s, .refused e, []⟩
  | .summary => ⟨s, .summary s.manager.summary, []⟩
  | .build =>
    let built := s.manager.build s.entries.typeOf
    match built.2.result with
    | .ok (report, installs) =>
      ⟨⟨built.1, s.entries.installAll installs⟩, .report report, installs⟩
    | .error e => ⟨{ s with manager := built.1 }, .refused e, []⟩

def run (s : Surface) (qs : List Request) : Surface := qs.foldl (fun s q => (s.ask q).surface) s

/-- The setters that the requests of a sequence call, in order. -/
def setters (s : Surface) : List Request → List Install
  | [] => []
  | q :: qs => (s.ask q).setters ++ setters (s.ask q).surface qs

def start (sch : Schema) (c : Config) (es : Entries) : Surface :=
  { manager := { schema := sch, config := c }, entries := es }

theorem run_concat (s : Surface) (qs : List Request) (q : Request) :
    s.run (qs ++ [q]) = ((s.run qs).ask q).surface := by
  simp [run]

theorem setters_append (s : Surface) (before after : List Request) :
    s.setters (before ++ after) = s.setters before ++ (s.run before).setters after := by
  induction before generalizing s with
  | nil => rfl
  | cons q before ih =>
    rw [List.cons_append, setters, setters, ih, List.append_assoc]
    rfl

/-- The error of a request that comes after a build. -/
def Refuses (sch : Schema) : Request → Answer → Prop
  | .registration r, a => a = .refused (.registrationClosed (sch.fieldKey r.field))
  | .build, a => a = .refused .alreadyBuilt
  | .summary, _ => True

/-- A manager that was built refuses everything and changes nothing. -/
theorem ask_of_resolved (hs : s.manager.state = .resolved) (q : Request) :
    (s.ask q).surface = s ∧ (s.ask q).setters = [] ∧
      Refuses s.manager.schema q (s.ask q).answer := by
  cases q with
  | registration r => simp [ask, apply_of_resolved hs, Refuses]
  | summary => exact ⟨rfl, rfl, trivial⟩
  | build => simp [ask, Manager.build, hs, Refuses]

theorem setters_of_resolved (hs : s.manager.state = .resolved) (qs : List Request) :
    s.setters qs = [] := by
  induction qs with
  | nil => rfl
  | cons q qs ih =>
    obtain ⟨hsurface, hsetters, -⟩ := ask_of_resolved hs q
    rw [setters, hsetters, hsurface, ih]
    rfl

private theorem manager_ask_build (s : Surface) :
    (s.ask .build).surface.manager = (s.manager.build s.entries.typeOf).1 := by
  simp only [ask]
  split <;> rfl

/-- A build closes the manager and changes nothing else of it. -/
theorem frame_ask_build (s : Surface) :
    (s.ask .build).surface.manager = { s.manager with state := .resolved } := by
  rw [manager_ask_build, Manager.build]
  split
  · rename_i hs
    rw [← hs]
  · rfl

/-- Until a build, the manager has tracked the registrations and no entry has changed. -/
theorem run_of_no_build (sch : Schema) (c : Config) (es : Entries) (hb : .build ∉ before) :
    ∃ h, Registration.Tracks sch c h ((start sch c es).run before).manager ∧
      ((start sch c es).run before).entries = es := by
  induction before using List.reverseRecOn with
  | nil => exact ⟨[], Registration.tracks_nil sch c, rfl⟩
  | append_singleton before q ih =>
    simp only [List.mem_append, List.mem_singleton, not_or] at hb
    obtain ⟨h, ht, he⟩ := ih hb.1
    rw [run_concat]
    cases q with
    | registration r =>
      obtain ⟨m', hm', ht'⟩ := ht.step r
      refine ⟨h ++ [r], ?_, ?_⟩ <;> simp only [ask, hm']
      · exact ht'
      · exact he
    | summary => exact ⟨h, ht, he⟩
    | build => exact absurd rfl hb.2

/-- Registrations that a manager takes lead a surface to the same manager and to no entry. -/
theorem run_of_registered {m : Manager} (hm : Registration.run s.manager h = .ok m) :
    s.run (h.map .registration) = { s with manager := m } := by
  induction h using List.reverseRecOn generalizing m with
  | nil =>
    cases hm
    rfl
  | append_singleton h r ih =>
    rw [Registration.run_concat] at hm
    obtain ⟨m', hm', hr⟩ := bind_eq_ok_iff.mp hm
    rw [List.map_append, List.map_singleton, run_concat, ih hm']
    simp only [ask, hr]

/-- A history of registrations reaches the manager that it leads to and no entry. -/
theorem run_registrations (sch : Schema) (c : Config) (es : Entries) (h : List Registration) :
    ∃ m, Registration.Tracks sch c h m ∧
      (start sch c es).run (h.map .registration) = { manager := m, entries := es } := by
  obtain ⟨m, hm, ht⟩ := Registration.tracks_run sch c h
  exact ⟨m, ht, run_of_registered hm⟩

/-- After a build, everything is as the first build left it. -/
theorem run_of_build (s : Surface) (hb : .build ∈ before) :
    ∃ b a, before = b ++ .build :: a ∧ .build ∉ b ∧
      s.run before = ((s.run b).ask .build).surface := by
  induction before using List.reverseRecOn with
  | nil => simp at hb
  | append_singleton before q ih =>
    by_cases hmem : .build ∈ before
    · obtain ⟨b, a, rfl, hb, hrun⟩ := ih hmem
      refine ⟨b, a ++ [q], by simp, hb, ?_⟩
      rw [run_concat, hrun]
      exact (ask_of_resolved (by rw [frame_ask_build]) q).1
    · obtain rfl : q = .build := by simpa [hmem, eq_comm] using hb
      exact ⟨before, [], rfl, hmem, run_concat ..⟩

private theorem setters_of_no_build (sch : Schema) (c : Config) (es : Entries)
    (hb : .build ∉ before) : (start sch c es).setters before = [] := by
  induction before using List.reverseRecOn with
  | nil => rfl
  | append_singleton before q ih =>
    simp only [List.mem_append, List.mem_singleton, not_or] at hb
    obtain ⟨h, ht, -⟩ := run_of_no_build sch c es hb.1
    rw [setters_append, ih hb.1]
    cases q with
    | registration r =>
      obtain ⟨m', hm', -⟩ := ht.step r
      simp [setters, ask, hm']
    | summary => rfl
    | build => exact absurd rfl hb.2

/-- Each entry gets one call of the setter of an action that a source wants, and no other call. -/
def CalledOnce (m : Manager) (setters : List Install) : Prop :=
  ∀ e a, (m.Wants e a → setters.countP (fun i => i.entry = e ∧ i.action = a) = 1) ∧
    (¬ m.Wants e a → setters.countP (fun i => i.entry = e ∧ i.action = a) = 0)

private theorem calledOnce_of_resolve (ht : Registration.Tracks sch c h s.manager)
    {typeOf : EntryId → ValueType} {report : Report} {installs : List Install}
    (hr : (s.manager.resolve typeOf).result = .ok (report, installs)) :
    installs.length = report.installed ∧ CalledOnce s.manager installs := by
  obtain ⟨table, known, -, hknown, hall, rfl, rfl⟩ := Manager.resolve_spec hr
  refine ⟨Manager.length_installs .., ?_⟩
  intro e a
  rw [Manager.countP_installs (Manager.nodup_governing ht.coherent),
    ← Manager.exists_entryGate_iff_wants hknown hall]
  exact ⟨fun hw => if_pos hw, fun hw => if_neg hw⟩

private theorem build_of_tracks (ht : Registration.Tracks sch c h s.manager)
    (typeOf : EntryId → ValueType) : (s.manager.build typeOf).2 = s.manager.resolve typeOf := by
  rw [Manager.build, ht.state]

/-- A build that reports has resolved everything, and has put on the entries what it resolved. -/
theorem ask_build_of_report (ht : Registration.Tracks sch c h s.manager) {report : Report}
    (hb : (s.ask .build).answer = .report report) :
    (s.manager.resolve s.entries.typeOf).result = .ok (report, (s.ask .build).setters) ∧
      (s.ask .build).surface.entries = s.entries.installAll (s.ask .build).setters := by
  cases hr : (s.manager.resolve s.entries.typeOf).result with
  | error e => simp [ask, build_of_tracks ht, hr] at hb
  | ok built =>
    simp only [ask, build_of_tracks ht, hr, Answer.report.injEq] at hb ⊢
    exact ⟨by rw [← hb], trivial⟩

/-- A first build either fails and touches no entry, or calls each setter that is wanted, once. -/
theorem ask_build_of_tracks (ht : Registration.Tracks sch c h s.manager) :
    (∃ e, (s.ask .build).answer = .refused e ∧ (s.ask .build).setters = [] ∧
      (s.ask .build).surface.entries = s.entries) ∨
    ∃ report, (s.ask .build).answer = .report report ∧
      (s.ask .build).surface.entries = s.entries.installAll (s.ask .build).setters ∧
      (s.ask .build).setters.length = report.installed ∧
      CalledOnce s.manager (s.ask .build).setters := by
  cases hr : (s.manager.resolve s.entries.typeOf).result with
  | error e =>
    left
    refine ⟨e, ?_⟩
    simp [ask, build_of_tracks ht, hr]
  | ok built =>
    right
    have hb : (s.ask .build).answer = .report built.1 := by simp [ask, build_of_tracks ht, hr]
    obtain ⟨hresolve, hentries⟩ := ask_build_of_report ht hb
    exact ⟨built.1, hb, hentries, calledOnce_of_resolve ht hresolve⟩

private theorem ask_of_no_build (ht : Registration.Tracks sch c h s.manager) (hq : q ≠ .build) :
    (s.ask q).setters = [] ∧ (s.ask q).surface.entries = s.entries := by
  cases q with
  | registration r =>
    obtain ⟨m', hm', -⟩ := ht.step r
    simp [ask, hm']
  | summary => exact ⟨rfl, rfl⟩
  | build => exact absurd rfl hq

/-- Whatever was asked before: no request but the first build calls a setter or changes an entry;
the first build leaves table and governance alone, and either fails and calls no setter or calls
each setter that the sources of an entry want, once; afterwards all is refused and nothing
changes. -/
theorem setters_called_once (sch : Schema) (c : Config) (es : Entries) (before : List Request)
    (q : Request) :
    let now := (start sch c es).run before
    let reply := now.ask q
    ((q ≠ .build ∨ .build ∈ before) → reply.setters = [] ∧ reply.surface.entries = now.entries) ∧
    (q = .build → .build ∉ before →
      reply.surface.manager.entries = now.manager.entries ∧
      reply.surface.manager.governance = now.manager.governance ∧
      (∀ after, (start sch c es).setters (before ++ q :: after) = reply.setters) ∧
      ((∃ e, reply.answer = .refused e ∧ reply.setters = [] ∧
          reply.surface.entries = now.entries) ∨
        ∃ report, reply.answer = .report report ∧
          reply.surface.entries = now.entries.installAll reply.setters ∧
          reply.setters.length = report.installed ∧ CalledOnce now.manager reply.setters)) ∧
    (.build ∈ before → reply.surface = now ∧ Refuses sch q reply.answer) := by
  intro now reply
  have hclosed (hb : .build ∈ before) :
      now.manager.state = .resolved ∧ now.manager.schema = sch := by
    obtain ⟨b, a, -, hb, hrun⟩ := run_of_build (start sch c es) hb
    obtain ⟨h, ht, -⟩ := run_of_no_build sch c es hb
    rw [show now = _ from hrun, frame_ask_build]
    exact ⟨rfl, ht.schema⟩
  refine ⟨?_, ?_, ?_⟩
  · intro hq
    by_cases hb : .build ∈ before
    · obtain ⟨hsurface, hsetters, -⟩ := ask_of_resolved (hclosed hb).1 q
      exact ⟨hsetters, congrArg entries hsurface⟩
    · obtain ⟨h, ht, -⟩ := run_of_no_build sch c es hb
      exact ask_of_no_build ht (hq.resolve_right hb)
  · rintro rfl hb
    obtain ⟨h, ht, -⟩ := run_of_no_build sch c es hb
    have hframe : reply.surface.manager = { now.manager with state := .resolved } :=
      frame_ask_build now
    refine ⟨by rw [hframe], by rw [hframe], ?_, ask_build_of_tracks ht⟩
    intro after
    rw [setters_append, setters_of_no_build sch c es hb, setters, List.nil_append,
      setters_of_resolved (by rw [frame_ask_build]), List.append_nil]
  · intro hb
    obtain ⟨hstate, hschema⟩ := hclosed hb
    obtain ⟨hsurface, -, hrefuses⟩ := ask_of_resolved hstate q
    exact ⟨hsurface, hschema ▸ hrefuses⟩

end Engine

open scoped Pattern.Engine

/-- The build of a lamp whose power is registered and whose glow is lent an entry reports one gate,
calls the setter of that entry once, and is the last request to call any. -/
theorem setter_of_glow_called :
    let es : Entries :=
      ⟨[{ type := .bool, value := .bool true }, { type := .bool, value := .bool false }]⟩
    let before : List Request :=
      [.registration (.register ⟨⟨0⟩, 0⟩ [⟨0⟩]), .registration (.registerDeclared ⟨⟨0⟩, 1⟩ [⟨1⟩])]
    let reply := ((start .lamp {} es).run before).ask .build
    ∃ report i, reply.answer = .report report ∧ report.installed = 1 ∧ reply.setters = [i] ∧
      i.entry = ⟨1⟩ ∧ i.action = .enable ∧
      (reply.surface.entries.get? ⟨1⟩).bind (·.gate? .enable) = some i.gate ∧
      ∀ after, (start .lamp {} es).setters (before ++ .build :: after) = [i] := by
  intro es before reply
  have hreport : ∃ report i, reply.answer = .report report ∧ report.installed = 1 ∧
      reply.setters = [i] ∧ i.entry = ⟨1⟩ ∧ i.action = .enable ∧
      (reply.surface.entries.get? ⟨1⟩).bind (·.gate? .enable) = some i.gate :=
    ⟨_, _, rfl, rfl, rfl, rfl, rfl, rfl⟩
  obtain ⟨report, i, hanswer, hinstalled, hsetters, hentry, haction, hgate⟩ := hreport
  obtain ⟨-, hbuild, -⟩ := setters_called_once .lamp {} es before .build
  obtain ⟨-, -, hrun, -⟩ := hbuild rfl (by simp [before])
  refine ⟨report, i, hanswer, hinstalled, hsetters, hentry, haction, hgate, fun after => ?_⟩
  rw [← hsetters]
  exact hrun after

end Surface
end FieldGate
