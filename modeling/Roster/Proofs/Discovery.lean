import Roster.Proofs.FirstOccurrences

/-! # What sources discover

Sources are asked one after the other, each one on top of the types that the ones before it brought.
Without a source that cannot be read, the types of a round are all that they find, each once.

* `TypeSource.readable_iff`: whether a source can be read does not depend on the other types.
* `exists_finds_iff`: sources find something together exactly when each can be read.
* `discoverFrom_of_finds`, `discoverFrom_of_unreadable`: what discovery makes of that.
-/

namespace Roster

/-- Whether a source can be read. -/
def TypeSource.Readable (t : FileTree) (source : TypeSource) : Prop :=
  ∃ findings, (source.discover t .empty).1 = .ok findings

/-- A source that can be read on top of some types can be read on top of any. -/
theorem TypeSource.discover_ok {t : FileTree} {g : TypeGraph} {source : TypeSource}
    {findings : Findings} (h : (source.discover t g).1 = .ok findings) (g' : TypeGraph) :
    ∃ findings', (source.discover t g').1 = .ok findings' := by
  cases source with
  | host name outcome =>
    cases outcome with
    | error fault => simp [discover, Except.map] at h
    | ok found => exact ⟨⟨g', found⟩, rfl⟩
  | manifest path =>
    cases hread : discoverManifest t path with
    | error fault => simp [discover, hread] at h
    | ok d => exact ⟨addDiscovery g' d, by simp [discover, hread]⟩
  | modules roots exclude =>
    cases hread : discoverClasses t (excludeRules exclude) roots with
    | error broken => simp [discover, hread] at h
    | ok d => exact ⟨addDiscovery g' d, by simp [discover, hread]⟩

theorem TypeSource.readable_iff {t : FileTree} {source : TypeSource} (g : TypeGraph) :
    source.Readable t ↔ ∃ findings, (source.discover t g).1 = .ok findings := by
  constructor
  · rintro ⟨findings, h⟩
    exact TypeSource.discover_ok h g
  · rintro ⟨findings, h⟩
    exact TypeSource.discover_ok h .empty

/-- Sources that can all be read find types one after the other: `Finds t g sources h found` says
that they start from the graph `g`, end with the graph `h`, and find the list `found`. -/
inductive Finds (t : FileTree) :
    TypeGraph → List TypeSource → TypeGraph → List (Option TypeId) → Prop where
  | nothing {g : TypeGraph} : Finds t g [] g []
  | more {g h : TypeGraph} {source : TypeSource} {rest : List TypeSource} {findings : Findings}
      {found : List (Option TypeId)} (first : (source.discover t g).1 = .ok findings)
      (others : Finds t findings.graph rest h found) :
      Finds t g (source :: rest) h (findings.found ++ found)

theorem exists_finds_iff (t : FileTree) (g : TypeGraph) (sources : List TypeSource) :
    (∃ h found, Finds t g sources h found) ↔ ∀ source ∈ sources, source.Readable t := by
  induction sources generalizing g with
  | nil => exact ⟨fun _ => by simp, fun _ => ⟨g, [], .nothing⟩⟩
  | cons source rest ih =>
    rw [List.forall_mem_cons]
    constructor
    · rintro ⟨h, found, hfinds⟩
      cases hfinds with
      | more first others =>
        exact ⟨(TypeSource.readable_iff g).mpr ⟨_, first⟩, (ih _).mp ⟨_, _, others⟩⟩
    · rintro ⟨hsource, hrest⟩
      obtain ⟨findings, first⟩ := (TypeSource.readable_iff g).mp hsource
      obtain ⟨h, found, others⟩ := (ih findings.graph).mpr hrest
      exact ⟨h, findings.found ++ found, .more first others⟩

theorem Finds.unique {t : FileTree} {g h h' : TypeGraph} {sources : List TypeSource}
    {found found' : List (Option TypeId)} (hfinds : Finds t g sources h found)
    (hfinds' : Finds t g sources h' found') : h = h' ∧ found = found' := by
  induction hfinds generalizing h' found' with
  | nothing =>
    cases hfinds'
    exact ⟨rfl, rfl⟩
  | more first _ ih =>
    cases hfinds' with
    | more first' others' =>
      obtain rfl := Except.ok.inj (first.symm.trans first')
      obtain ⟨rfl, rfl⟩ := ih others'
      exact ⟨rfl, rfl⟩

namespace Round

/-- Sources that can all be read bring their types, each once, and no error. -/
theorem discoverFrom_of_finds {t : FileTree} {g h : TypeGraph} {sources : List TypeSource}
    {found types : List (Option TypeId)} (hfinds : Finds t g sources h found) (hd : types.Nodup) :
    (discoverFrom t types g sources).1 = h ∧
      (discoverFrom t types g sources).2.1 = some (types ++ found).eraseDups ∧
      errorsOf (discoverFrom t types g sources).2.2.diagnostics = [] := by
  induction hfinds generalizing types with
  | nothing =>
    refine ⟨rfl, ?_, rfl⟩
    rw [List.append_nil, eraseDups_of_nodup hd]
    rfl
  | @more g h source rest findings found first _ ih =>
    unfold discoverFrom
    rcases hgot : source.discover t g with ⟨outcome, log⟩
    rw [hgot] at first
    obtain rfl : outcome = .ok findings := first
    have hfirst := foldl_addType hd findings.found
    have hnd : (findings.found.foldl addType types).Nodup := by
      rw [hfirst]
      exact nodup_eraseDups _
    obtain ⟨hgraph, htypes, herrors⟩ := ih hnd
    refine ⟨hgraph, htypes.trans ?_, ?_⟩
    · rw [hfirst, eraseDups_eraseDups_append, List.append_assoc]
    · simpa [sourceNote] using herrors

/-- A source that cannot be read ends discovery with an error. -/
theorem discoverFrom_of_unreadable {t : FileTree} {g : TypeGraph} {sources : List TypeSource}
    {types : List (Option TypeId)} (h : ¬ ∀ source ∈ sources, source.Readable t) :
    (discoverFrom t types g sources).2.1 = none ∧
      errorsOf (discoverFrom t types g sources).2.2.diagnostics ≠ [] := by
  induction sources generalizing g types with
  | nil => exact absurd (by simp) h
  | cons source rest ih =>
    unfold discoverFrom
    rcases hgot : source.discover t g with ⟨(fault | findings), log⟩
    · refine ⟨rfl, ?_⟩
      cases fault <;> simp [sourceFailure]
    · have hsource : source.Readable t := (TypeSource.readable_iff g).mpr ⟨findings, by rw [hgot]⟩
      have hrest : ¬ ∀ source ∈ rest, source.Readable t := by
        intro hall
        exact h (List.forall_mem_cons.mpr ⟨hsource, hall⟩)
      obtain ⟨hnone, herrors⟩ :=
        @ih findings.graph (findings.found.foldl addType types) hrest
      refine ⟨hnone, ?_⟩
      simpa [sourceNote] using herrors

end Round
end Roster
