import FieldGate.Proofs.Failures
import FieldGate.Proofs.Installed
import FieldGate.Session

/-! Gates after a build, whatever is done to the session short of dropping the manager. What a gate
reads is held by the manager's table, so no entry that it needs is ever gone. -/
namespace FieldGate

namespace Entries

variable [PatternEngine] {es : Entries} {id : EntryId} {f : Entry → Entry}

def types (es : Entries) (e : EntryId) : Option ValueType := (es.get? e).map Entry.type

theorem typeOf_eq (es : Entries) : es.typeOf = fun e => (es.types e).getD .bool := by
  funext e
  unfold typeOf types
  cases es.get? e <;> rfl

theorem types_modify (es : Entries) (id : EntryId) (hf : ∀ x, (f x).type = x.type) :
    (es.modify id f).types = es.types := by
  funext e
  unfold types modify get?
  by_cases he : id.index = e.index
  · rw [he, List.getElem?_modify_eq, Option.map_eq_map, Option.map_map]
    exact congrArg (Option.map · _) (funext hf)
  · rw [List.getElem?_modify_ne _ _ he]

theorem types_installAll (es : Entries) (is : List Install) :
    (es.installAll is).types = es.types := by
  induction is generalizing es with
  | nil => rfl
  | cons i is ih =>
    refine (ih (es.install i)).trans (types_modify es i.entry fun x => ?_)
    cases i.action <;> rfl

end Entries

/-- A table holds on to nothing but what it held and what is registered. -/
theorem EntryTable.holds_of_register {t : EntryTable} {f : FieldId} {es? : Option (List EntryId)}
    {e : EntryId} (h : (t.register f es?).holds e = true) :
    t.holds e = true ∨ ∃ es, es? = some es ∧ e ∈ es := by
  have herase (h : (t.erase f).holds e = true) : t.holds e = true := by
    obtain ⟨p, hp, he⟩ := List.any_eq_true.mp h
    exact List.any_eq_true.mpr ⟨p, List.mem_of_mem_filter hp, he⟩
  cases es? with
  | none => exact .inl (herase h)
  | some es =>
    rcases Bool.or_eq_true_iff.mp h with h | h
    · exact .inr ⟨es, rfl, List.contains_iff_mem.mp h⟩
    · exact .inl (herase h)

namespace Session

section Engine

variable [PatternEngine]

/-- What can be done to a session that bears on its entries or on what holds on to them. -/
inductive Move
  | register (f : FieldId) (names : List String)
  | registerDeclared (f : FieldId) (names : List String)
  | deregister (f : FieldId)
  | build
  | setValue (name : String) (v : Value)
  | install (name : String) (action : Action) (verdict : Option Bool)
  | drop (name : String)
  | buildHandlers
  | dropHandlers
  | dropManager

/-- The session after a move, which stays as it was if the move is refused. -/
def step (s : Session) : Move → Session
  | .register f names => (s.register f names).toOption.getD s
  | .registerDeclared f names => (s.registerDeclared f names).toOption.getD s
  | .deregister f => (s.deregister f).toOption.getD s
  | .build => s.build.1
  | .setValue name v => (s.setValue name v).toOption.getD s
  | .install name action verdict => (s.installConstant name action verdict).toOption.getD s
  | .drop name => (s.drop name).toOption.getD s
  | .buildHandlers => s.buildHandlers.1
  | .dropHandlers => s.dropHandlers
  | .dropManager => s.dropManager

def run (s : Session) (moves : List Move) : Session := moves.foldl step s

/-- What a move can do: no type changes, no name is new, and the manager's table holds nothing but
what it held before and what has a name. A manager that was built stays as it is until dropped. -/
structure Follows (s s' : Session) : Prop where
  types : s'.entries.types = s.entries.types
  names : ∀ p ∈ s'.names, p ∈ s.names
  held : ∀ m', s'.manager = some m' → ∃ m, s.manager = some m ∧
    ∀ e, m'.entries.holds e = true → m.entries.holds e = true ∨ ∃ p ∈ s.names, p.2 = e

variable {s s' : Session} {m m' : Manager} {name : String} {e : EntryId}

theorem Follows.refl (s : Session) : Follows s s where
  types := rfl
  names _ := id
  held m hm := ⟨m, hm, fun _ => .inl⟩

private theorem follows_getD {x : Except SessionError Session}
    (h : ∀ s', x = .ok s' → Follows s s') : Follows s (x.toOption.getD s) := by
  cases x with
  | error e => exact .refl s
  | ok s' => exact h s' rfl

private theorem exists_name_of_entryNamed (h : s.entryNamed name = .ok e) :
    ∃ p ∈ s.names, p.2 = e := by
  unfold entryNamed at h
  split at h
  · rename_i e' hlookup
    cases h
    obtain ⟨before, after, hnames, -⟩ := List.lookup_eq_some_iff.mp hlookup
    refine ⟨(name, e), ?_, rfl⟩
    rw [hnames]
    exact List.mem_append_right _ List.mem_cons_self
  · cases h

private theorem managers_of_change {f : Manager → Except BuildError Manager}
    (h : s.change f = .ok s') :
    ∃ m m', s.manager = some m ∧ f m = .ok m' ∧ s' = s.withManager m' := by
  obtain ⟨m, hm, h⟩ := bind_eq_ok_iff.mp h
  obtain ⟨m', hm', ⟨⟩⟩ := bind_eq_ok_iff.mp h
  refine ⟨m, m', ?_, mapError_eq_ok_iff.mp hm', rfl⟩
  unfold currentManager at hm
  split at hm
  · rename_i hsome
    cases hm
    exact hsome
  · cases hm

private theorem follows_change {r : Registration} (hr : ∀ e ∈ r.entries, ∃ p ∈ s.names, p.2 = e)
    (h : s.change r.apply = .ok s') : Follows s s' := by
  -- only entries with names come into the table
  obtain ⟨m, m', hm, happly, rfl⟩ := managers_of_change h
  refine ⟨rfl, fun _ => id, ?_⟩
  rintro _ ⟨⟩
  refine ⟨m, hm, fun e he => ?_⟩
  rw [(Registration.apply_spec happly).2] at he
  cases r with
  | register f es =>
    rcases EntryTable.holds_of_register he with he | ⟨_, ⟨⟩, he⟩
    · exact .inl he
    · exact .inr (hr e he)
  | registerDeclared f es => exact .inl he
  | deregister f =>
    rcases EntryTable.holds_of_register he with he | ⟨_, ⟨⟩, -⟩
    exact .inl he

private theorem entries_of_names {names : List String} {es : List EntryId}
    (h : names.mapM s.entryNamed = .ok es) : ∀ e ∈ es, ∃ p ∈ s.names, p.2 = e := by
  intro e he
  obtain ⟨name, -, hname⟩ := exists_left_of_mem (mapM_eq_ok_iff.mp h) he
  exact exists_name_of_entryNamed hname

private theorem follows_modify (s : Session) (e : EntryId) {f : Entry → Entry}
    (hf : ∀ x, (f x).type = x.type) : Follows s { s with entries := s.entries.modify e f } :=
  ⟨Entries.types_modify s.entries e hf, fun _ => id, fun m hm => ⟨m, hm, fun _ => .inl⟩⟩

private theorem build_spec (hm : s.manager = some m) :
    ∃ is, s.build.1 = { s with manager := some { m with state := .resolved }
                               entries := s.entries.installAll is } := by
  have hstate : (m.build s.entries.typeOf).1 = { m with state := .resolved } := by
    unfold Manager.build
    split
    · rename_i hstate
      rw [← hstate]
    · rfl
  unfold build
  rw [hm]
  dsimp only
  rw [hstate]
  split
  · exact ⟨_, rfl⟩
  · exact ⟨[], rfl⟩

private theorem follows_build (s : Session) : Follows s s.build.1 := by
  cases hm : s.manager with
  | none =>
    have hsame : s.build.1 = s := by rw [build, hm]
    rw [hsame]
    exact .refl s
  | some m =>
    obtain ⟨is, hbuild⟩ := build_spec hm
    rw [hbuild]
    refine ⟨Entries.types_installAll s.entries is, fun _ => id, ?_⟩
    rintro _ ⟨⟩
    exact ⟨m, hm, fun _ => .inl⟩

private theorem statusOfHandlers_spec (t : HandlerTable) (s : Session) (keys : List String) :
    ∃ invoked, (statusOfHandlers t s keys).2 = { s with invoked } := by
  induction keys generalizing s with
  | nil => exact ⟨s.invoked, rfl⟩
  | cons key keys ih =>
    unfold statusOfHandlers
    split
    · exact ih s
    · rename_i handler _
      cases handler.default with
      | none => exact ih s
      | some g =>
        obtain ⟨invoked, h⟩ := ih (s.check g).2
        exact ⟨invoked, h⟩

private theorem buildHandlers_spec (s : Session) :
    ∃ handlers invoked, s.buildHandlers.1 = { s with handlers, invoked } := by
  unfold buildHandlers
  split
  · exact ⟨s.handlers, s.invoked, rfl⟩
  · split
    · exact ⟨s.handlers, s.invoked, rfl⟩
    · rename_i t _
      obtain ⟨invoked, h⟩ := statusOfHandlers_spec t { s with handlers := some t } t.keys
      exact ⟨some t, invoked, h⟩

private theorem follows_buildHandlers (s : Session) : Follows s s.buildHandlers.1 := by
  obtain ⟨handlers, invoked, h⟩ := buildHandlers_spec s
  rw [h]
  exact ⟨rfl, fun _ => id, fun m hm => ⟨m, hm, fun _ => .inl⟩⟩

theorem follows_step (s : Session) (move : Move) : Follows s (s.step move) := by
  cases move with
  | register f names =>
    refine follows_getD fun s' h => ?_
    obtain ⟨es, hes, h⟩ := bind_eq_ok_iff.mp h
    exact follows_change (r := .register f es) (entries_of_names hes) h
  | registerDeclared f names =>
    refine follows_getD fun s' h => ?_
    obtain ⟨es, hes, h⟩ := bind_eq_ok_iff.mp h
    exact follows_change (r := .registerDeclared f es) (entries_of_names hes) h
  | deregister f =>
    exact follows_getD fun s' h =>
      follows_change (r := .deregister f) (fun e he => absurd he List.not_mem_nil) h
  | build => exact follows_build s
  | setValue name v =>
    refine follows_getD fun s' h => ?_
    obtain ⟨e, -, ⟨⟩⟩ := bind_eq_ok_iff.mp h
    exact follows_modify s e fun _ => rfl
  | install name action verdict =>
    refine follows_getD fun s' h => ?_
    obtain ⟨e, -, ⟨⟩⟩ := bind_eq_ok_iff.mp h
    exact follows_modify s e fun x => by cases action <;> rfl
  | drop name =>
    refine follows_getD fun s' h => ?_
    obtain ⟨e, -, ⟨⟩⟩ := bind_eq_ok_iff.mp h
    exact ⟨rfl, fun p hp => List.mem_of_mem_filter hp, fun m hm => ⟨m, hm, fun _ => .inl⟩⟩
  | buildHandlers => exact follows_buildHandlers s
  | dropHandlers => exact ⟨rfl, fun _ => id, fun m hm => ⟨m, hm, fun _ => .inl⟩⟩
  | dropManager => exact ⟨rfl, fun _ => id, fun m hm => by cases hm⟩

/-- Every entry that has a name, or that the table of the manager holds on to, is one of the
session. -/
structure Valid (s : Session) : Prop where
  names : ∀ p ∈ s.names, (s.entries.types p.2).isSome
  held : ∀ m, s.manager = some m → ∀ e, m.entries.holds e = true → (s.entries.types e).isSome

theorem Follows.valid (h : Follows s s') (hs : s.Valid) : s'.Valid where
  names p hp := by
    rw [h.types]
    exact hs.names p (h.names p hp)
  held m' hm' e he := by
    rw [h.types]
    obtain ⟨m, hm, hheld⟩ := h.held m' hm'
    rcases hheld e he with he | ⟨p, hp, rfl⟩
    · exact hs.held m hm e he
    · exact hs.names p hp

theorem valid_start (schema : Schema) (config : Config)
    (entries : List (String × ValueType × Value)) : (start schema config entries).Valid where
  names := by
    intro p hp
    obtain ⟨⟨entry, i⟩, hi, rfl⟩ := List.mem_map.mp hp
    have hentry : entries[i]? = some entry := List.mem_zipIdx_iff_getElem?.mp hi
    have htype : (start schema config entries).entries.types ⟨i⟩ = some entry.2.1 := by
      simp [start, Entries.types, Entries.get?, hentry]
    exact Option.isSome_of_eq_some htype
  held := by
    rintro _ ⟨⟩ e he
    cases he

theorem valid_run (hs : s.Valid) (moves : List Move) : (s.run moves).Valid := by
  induction moves generalizing s with
  | nil => exact hs
  | cons move moves ih => exact ih ((follows_step s move).valid hs)

theorem types_run (s : Session) (moves : List Move) :
    (s.run moves).entries.types = s.entries.types := by
  induction moves generalizing s with
  | nil => rfl
  | cons move moves ih => exact (ih (s.step move)).trans (follows_step s move).types

private theorem manager_step (hm : s.manager = some m) (hstate : m.state = .resolved) {move : Move}
    (hmove : move ≠ .dropManager) : (s.step move).manager = some m := by
  have hchange (r : Registration) (s' : Session) : s.change r.apply ≠ .ok s' := by
    intro h
    obtain ⟨m₁, m', hm₁, happly, -⟩ := managers_of_change h
    obtain rfl : m = m₁ := Option.some.inj (hm.symm.trans hm₁)
    have hregistering := (Registration.apply_spec happly).1
    rw [hstate] at hregistering
    cases hregistering
  have hgetD {x : Except SessionError Session} (h : ∀ s', x = .ok s' → s'.manager = some m) :
      (x.toOption.getD s).manager = some m := by
    cases x with
    | error e => exact hm
    | ok s' => exact h s' rfl
  cases move with
  | register f names =>
    refine hgetD fun s' h => ?_
    obtain ⟨es, -, h⟩ := bind_eq_ok_iff.mp h
    exact absurd h (hchange (.register f es) s')
  | registerDeclared f names =>
    refine hgetD fun s' h => ?_
    obtain ⟨es, -, h⟩ := bind_eq_ok_iff.mp h
    exact absurd h (hchange (.registerDeclared f es) s')
  | deregister f => exact hgetD fun s' h => absurd h (hchange (.deregister f) s')
  | build =>
    obtain ⟨is, hbuild⟩ := build_spec hm
    rw [step, hbuild, ← hstate]
  | setValue name v | install name action verdict | drop name =>
    refine hgetD fun s' h => ?_
    obtain ⟨e, -, ⟨⟩⟩ := bind_eq_ok_iff.mp h
    exact hm
  | buildHandlers =>
    obtain ⟨handlers, invoked, h⟩ := buildHandlers_spec s
    rw [step, h]
    exact hm
  | dropHandlers => exact hm
  | dropManager => exact absurd rfl hmove

theorem manager_run (hm : s.manager = some m) (hstate : m.state = .resolved) {moves : List Move}
    (hmoves : .dropManager ∉ moves) : (s.run moves).manager = some m := by
  induction moves generalizing s with
  | nil => exact hm
  | cons move moves ih =>
    rw [List.mem_cons, not_or] at hmoves
    exact ih (manager_step hm hstate (Ne.symm hmoves.1)) hmoves.2

/-- After any moves and a build that succeeds, whatever moves are made short of dropping the
manager: in a state where every live value is of the kind of the type of its entry, each gate that
was installed has a verdict, or a handler that the report lists has failed. -/
theorem checks_after_build (schema : Schema) (config : Config)
    (entries : List (String × ValueType × Value)) (before after : List Move)
    {report : Report} {installs : List Install}
    (hm : ((start schema config entries).run before).manager = some m)
    (hb : (m.build ((start schema config entries).run before).entries.typeOf).2.result =
      .ok (report, installs)) (hafter : .dropManager ∉ after) :
    let s := ((start schema config entries).run before).run (.build :: after)
    (∀ e v, s.live e = some v → (s.entries.typeOf e).admits v = true) →
      ∀ i ∈ installs, (∃ b, i.gate.outcome s.live = .ok b) ∨
        ∃ error, i.gate.outcome s.live = .error error ∧ report.Excuses m.schema error := by
  intro s hlive i hi
  have hvalid : s.Valid := valid_run (valid_run (valid_start schema config entries) before) _
  have htypes : s.entries.typeOf = ((start schema config entries).run before).entries.typeOf := by
    rw [Entries.typeOf_eq, Entries.typeOf_eq, types_run]
  obtain ⟨is, hbuild⟩ := build_spec hm
  have hbuilt := congrArg manager hbuild
  have hmanager : s.manager = some { m with state := .resolved } := manager_run hbuilt rfl hafter
  have hresolve : (m.resolve s.entries.typeOf).result = .ok (report, installs) := by
    rw [htypes]
    unfold Manager.build at hb
    split at hb
    · cases hb
    · exact hb
  have hfits : m.entries.Fits s.entries.typeOf s.live := by
    intro e he
    have hheld : s.holds e = true := by
      simp [holds, hmanager, Manager.holds, he]
    obtain ⟨type, htype⟩ := Option.isSome_iff_exists.mp (hvalid.held _ hmanager e he)
    obtain ⟨x, hx, -⟩ := Option.map_eq_some_iff.mp htype
    have hlive' : s.live e = some x.value := by
      rw [live, if_pos hheld, hx, Option.map_some]
    exact ⟨x.value, hlive', hlive e x.value hlive'⟩
  cases houtcome : i.gate.outcome s.live with
  | ok b => exact .inl ⟨b, rfl⟩
  | error error =>
    exact .inr ⟨error, rfl, Manager.failsOnly_of_resolve hresolve hfits hi error houtcome⟩

end Engine

open scoped Pattern.Engine

def beaconSession : Session :=
  (start .beacon {} [("power", .bool, .bool false), ("glow", .bool, .bool true)]).run
    [.register ⟨⟨0⟩, 0⟩ ["power"], .registerDeclared ⟨⟨0⟩, 1⟩ ["glow"]]

private theorem beaconSession_builds : ∃ m report installs, beaconSession.manager = some m ∧
    (m.build beaconSession.entries.typeOf).2.result = .ok (report, installs) ∧ installs ≠ [] := by
  have hbuilds : (beaconSession.manager.any fun m =>
      (m.build beaconSession.entries.typeOf).2.result.toOption.any fun built =>
        !built.2.isEmpty) = true := by decide +kernel
  obtain ⟨m, hm, hbuilds⟩ := Option.any_eq_true _ _ |>.mp hbuilds
  obtain ⟨⟨report, installs⟩, hb, hne⟩ := Option.any_eq_true _ _ |>.mp hbuilds
  refine ⟨m, report, installs, hm, ?_, by simpa using hne⟩
  cases hresult : (m.build beaconSession.entries.typeOf).2.result with
  | error e =>
    rw [hresult] at hb
    cases hb
  | ok built =>
    rw [hresult] at hb
    cases hb
    rfl

/-- The gate on the glow of a beacon has its verdict also when only the manager still holds the
entries. -/
theorem beacon_checks_unnamed :
    let s := beaconSession.run
      [.build, .setValue "power" (.bool true), .drop "power", .drop "glow"]
    ∃ m report installs, beaconSession.manager = some m ∧
      (m.build beaconSession.entries.typeOf).2.result = .ok (report, installs) ∧ installs ≠ [] ∧
      ∀ i ∈ installs, (∃ b, i.gate.outcome s.live = .ok b) ∨
        ∃ error, i.gate.outcome s.live = .error error ∧ report.Excuses m.schema error := by
  intro s
  obtain ⟨m, report, installs, hm, hb, hne⟩ := beaconSession_builds
  have hkinds : s.entries.items.all (fun x => x.type.admits x.value) = true := rfl
  refine ⟨m, report, installs, hm, hb, hne,
    checks_after_build .beacon {} _ _ [.setValue "power" (.bool true), .drop "power", .drop "glow"]
      hm hb (by simp) ?_⟩
  intro e v hv
  unfold live at hv
  split at hv
  · obtain ⟨x, hx, rfl⟩ := Option.map_eq_some_iff.mp hv
    have hmem : x ∈ s.entries.items := List.mem_of_getElem? hx
    have hkind := List.all_eq_true.mp hkinds x hmem
    unfold Entries.typeOf
    rw [hx]
    exact hkind
  · cases hv

end Session

end FieldGate
