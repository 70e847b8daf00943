import FieldGate.Proofs.Building

/-! What is resolved depends on the table of entries only through the entries that references lead
to. Where another table leads to the same ones, everything resolves to the same. -/
namespace FieldGate

theorem EntryTable.entry_congr {t t' : EntryTable} (h : ∀ f, t.entries? f = t'.entries? f) :
    t.entry = t'.entry := by
  funext r
  unfold entry locate
  rw [h]

namespace HandlerTable

variable {c : Context} {t : EntryTable}

private theorem constArguments_congr (h : t.entry = c.entries.entry) (owner : TypeId)
    (key : String) (texts : List String) :
    constArguments { c with entries := t } owner key texts = constArguments c owner key texts := by
  induction texts with
  | nil => rfl
  | cons text texts ih =>
    unfold constArguments
    simp only [h, ih]

variable [PatternEngine]

private theorem makeHandler_congr (h : t.entry = c.entries.entry) (m : MethodDef)
    (spec : HandlerSpec) : makeHandler { c with entries := t } m spec = makeHandler c m spec := by
  unfold makeHandler
  simp only [constArguments_congr h]

private theorem addEach_congr (h : t.entry = c.entries.entry) (table : HandlerTable)
    (ms : List MethodDef) : addEach { c with entries := t } table ms = addEach c table ms := by
  induction ms generalizing table with
  | nil => rfl
  | cons m ms ih =>
    unfold addEach
    simp only [makeHandler_congr h, ih]

theorem build_congr (h : t.entry = c.entries.entry) : build { c with entries := t } = build c :=
  addEach_congr h {} c.schema.handlerMethods

end HandlerTable

namespace Definition

variable [PatternEngine] {c : Context} {t : EntryTable}

private theorem lookupEntry_congr (h : t.entry = c.entries.entry) (owner : String) :
    lookupEntry { c with entries := t } owner = lookupEntry c owner := by
  funext r
  unfold lookupEntry
  simp only [h]

private theorem targetGate_congr (h : t.entry = c.entries.entry) (owner : String)
    (clause : Clause) :
    targetGate { c with entries := t } owner clause = targetGate c owner clause := by
  funext r
  unfold targetGate handlerGate fieldGate
  simp only [lookupEntry_congr h]

private theorem clauseGate_congr (h : t.entry = c.entries.entry) (owner : String) :
    clauseGate { c with entries := t } owner = clauseGate c owner := by
  funext clause
  unfold clauseGate
  simp only [targetGate_congr h]

theorem gate_congr (h : t.entry = c.entries.entry) : gate { c with entries := t } = gate c := by
  funext d
  unfold gate
  simp only [clauseGate_congr h]

end Definition

namespace Manager

theorem resolveField_congr [PatternEngine] {c : Definition.Context} {t : EntryTable}
    (h : t.entry = c.entries.entry) :
    resolveField { c with entries := t } = resolveField c := by
  funext f
  unfold resolveField
  simp only [Definition.gate_congr h]

end Manager

end FieldGate
