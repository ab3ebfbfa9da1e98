import Mathlib.Data.List.Nodup
import LocaleClock.Proofs.Toml.Statements

/-! Building tables from the statements of written documents. Such a document only ever adds at its
end: the table that grows is the last entry of the table around it. So the root is the growing table
plugged into frames, one for each table around it, and a statement that adds to the growing table
leaves the frames as they are. -/

namespace LocaleClock.Toml

def Entries.keys (es : Entries) : List String := es.map Prod.fst

/-- A table around the growing one: the entries before the one that grows, its key, and how the
table under that key came to be. -/
structure Frame where
  before : Entries
  key : String
  origin : Origin

/-- Holds when the entry that grows is new under its key and may still grow. -/
structure Frame.IsOpen (f : Frame) : Prop where
  isNew : f.key ∉ f.before.keys
  origin_ne : f.origin ≠ .inline

/-- The growing table in the tables around it, from the outside to the inside. -/
def plug : List Frame → Entries → Entries
  | [], es => es
  | f :: fs, es => f.before ++ [(f.key, .table f.origin (plug fs es))]

theorem plug_append (fs gs : List Frame) (es : Entries) :
    plug (fs ++ gs) es = plug fs (plug gs es) := by
  induction fs with
  | nil => rfl
  | cons f fs ih => rw [List.cons_append, plug, plug, ih]

/-- How the growing table came to be. -/
def innerOrigin (outer : Origin) (fs : List Frame) : Origin := fs.foldl (fun _ f => f.origin) outer

namespace Entries

/-! ### The last entry -/

theorem keys_append (es es' : Entries) : (es ++ es').keys = es.keys ++ es'.keys := List.map_append

/-- Of different keys the first is new, and the rest are new once it is there. -/
theorem nodup_concat {es : Entries} {k : String} {ks : List String}
    (h : (es.keys ++ k :: ks).Nodup) :
    k ∉ es.keys ∧ ∀ v, (keys (es ++ [(k, v)]) ++ ks).Nodup := by
  constructor
  · exact fun hmem => (List.nodup_append.1 h).2.2 _ hmem _ List.mem_cons_self rfl
  · intro v
    rw [keys_append, List.append_assoc]
    exact h

theorem lookup_eq_none {es : Entries} {k : String} (h : k ∉ es.keys) : es.lookup k = none := by
  rw [List.lookup_eq_none_iff]
  intro e he
  have hne : k ≠ e.1 := fun heq => h (heq ▸ List.mem_map_of_mem he)
  simpa using hne

theorem lookup_concat {es : Entries} {k : String} (h : k ∉ es.keys) (v : Value) :
    (es ++ [(k, v)]).lookup k = some v := by
  rw [List.lookup_append, lookup_eq_none h]
  simp

theorem put_concat {es : Entries} {k : String} (h : k ∉ es.keys) (v w : Value) :
    put k v (es ++ [(k, w)]) = es ++ [(k, v)] := by
  have hkeep : ∀ e ∈ es, (if e.1 = k then (k, v) else e) = e := by
    intro e he
    rw [if_neg]
    rintro rfl
    exact h (List.mem_map_of_mem he)
  rw [put, List.map_append, List.map_congr_left hkeep, List.map_id', List.map_singleton, if_pos rfl]

theorem alter_concat {es : Entries} {k : String} (h : k ∉ es.keys) {o : Origin} (ho : o ≠ .inline)
    (change : Origin → Entries → Option Entries) (ks : List String) (outer : Origin)
    (inner : Entries) :
    alter false change (k :: ks) outer (es ++ [(k, .table o inner)]) =
      (alter false change ks o inner).map fun inner' => es ++ [(k, .table o inner')] := by
  rw [alter, lookup_concat h]
  simp only [ho, Bool.false_eq_true, false_and, or_self, if_false]
  cases alter false change ks o inner with
  | none => rfl
  | some inner' => exact congrArg some (put_concat h _ _)

/-- Changing the growing table leaves the frames as they are. -/
theorem alter_plug {fs : List Frame} (hfs : ∀ f ∈ fs, f.IsOpen)
    (change : Origin → Entries → Option Entries) (outer : Origin) (es : Entries) :
    alter false change (fs.map Frame.key) outer (plug fs es) =
      (change (innerOrigin outer fs) es).map (plug fs) := by
  induction fs generalizing outer with
  | nil =>
    rw [List.map_nil, alter]
    exact (Option.map_id' ..).symm
  | cons f fs ih =>
    rw [List.forall_mem_cons] at hfs
    rw [List.map_cons, plug, alter_concat hfs.1.isNew hfs.1.origin_ne, ih hfs.2, Option.map_map]
    rfl

/-! ### Statements -/

theorem openTable_plug {fs : List Frame} (hfs : ∀ f ∈ fs, f.IsOpen) {es : Entries} {k : String}
    (hk : k ∉ es.keys) :
    openTable ⟨fs.map Frame.key, k⟩ (plug fs es) =
      some (plug fs (es ++ [(k, .table .header [])])) := by
  rw [openTable, alter_plug hfs, lookup_eq_none hk, Option.map_some]

/-- A header makes the table around its own one when that is missing. -/
theorem openTable_inside {root : Entries} {parent : String} (h : parent ∉ root.keys) (k : String) :
    openTable ⟨[parent], k⟩ root =
      some (root ++ [(parent, .table .implied [(k, .table .header [])])]) := by
  rw [openTable, alter, lookup_eq_none h]
  rfl

theorem addPair_plug {fs : List Frame} (hfs : ∀ f ∈ fs, f.IsOpen)
    (horigin : innerOrigin .header fs = .header) {es : Entries} {k : String} (hk : k ∉ es.keys)
    (v : Value) :
    addPair (fs.map Frame.key) ⟨[], k⟩ v (plug fs es) = some (plug fs (es ++ [(k, v)])) := by
  rw [addPair, alter_plug hfs, horigin, alter, lookup_eq_none hk]
  rfl

end Entries

/-! ### Tables -/

def entriesOf (pairs : List (String × Scalar)) : Entries := pairs.map fun p => (p.1, p.2.value)

/-- The entry that a table with a header is read as, from its key and its pairs. -/
def tableEntry (t : String × List (String × Scalar)) : String × Value :=
  (t.1, .table .header (entriesOf t.2))

theorem keys_map_tableEntry (ts : List (String × List (String × Scalar))) :
    Entries.keys (ts.map tableEntry) = ts.map Prod.fst := List.map_map

/-- Pairs with different keys fill the table of the last header. -/
theorem foldlM_pairs {fs : List Frame} (hfs : ∀ f ∈ fs, f.IsOpen)
    (horigin : innerOrigin .header fs = .header) {es : Entries} {pairs : List (String × Scalar)}
    (hkeys : (es.keys ++ pairs.map Prod.fst).Nodup) :
    (pairs.map fun p => Statement.pair ⟨[], p.1⟩ p.2.value).foldlM Draft.add
        ⟨plug fs es, fs.map Frame.key⟩ =
      some ⟨plug fs (es ++ entriesOf pairs), fs.map Frame.key⟩ := by
  induction pairs generalizing es with
  | nil => simp [entriesOf]
  | cons p pairs ih =>
    obtain ⟨hk, hrest⟩ := Entries.nodup_concat hkeys
    have hadd : Draft.add ⟨plug fs es, fs.map Frame.key⟩ (.pair ⟨[], p.1⟩ p.2.value) =
        some ⟨plug fs (es ++ [(p.1, p.2.value)]), fs.map Frame.key⟩ := by
      rw [Draft.add, Entries.addPair_plug hfs horigin hk]
      rfl
    rw [List.map_cons, List.foldlM_cons, hadd]
    refine (ih (hrest _)).trans ?_
    rw [List.append_assoc]
    rfl

theorem KeyPath.ofKeys_concat (parents : List String) (key : String) :
    KeyPath.ofKeys (parents ++ [key]) = ⟨parents, key⟩ := by
  rw [KeyPath.ofKeys, List.dropLast_concat, List.getLastD_concat]

/-- A header and pairs with different keys: the header opens the table, the pairs fill it. -/
theorem Block.foldlM_statements {fs : List Frame} (hfs : ∀ f ∈ fs, f.IsOpen)
    (horigin : innerOrigin .header fs = .header) {b : Block} {parents : List String} {key : String}
    (hpath : b.path = parents ++ [key]) (hkeys : (b.pairs.map Prod.fst).Nodup)
    (hframes : fs.map Frame.key = b.path) {root : Entries}
    (hopen : root.openTable ⟨parents, key⟩ = some (plug fs [])) (current : List String) :
    b.statements.foldlM Draft.add ⟨root, current⟩ = some ⟨plug fs (entriesOf b.pairs), b.path⟩ := by
  have hheader : Draft.add ⟨root, current⟩ (.header (.ofKeys b.path)) =
      some ⟨plug fs [], fs.map Frame.key⟩ := by
    rw [hframes, hpath, KeyPath.ofKeys_concat, Draft.add, hopen]
    rfl
  rw [Block.statements, List.foldlM_cons, hheader, ← hframes]
  exact foldlM_pairs hfs horigin hkeys

theorem Block.foldlM_statements_plug {fs : List Frame} (hfs : ∀ f ∈ fs, f.IsOpen) {b : Block}
    {key : String} (hpath : b.path = fs.map Frame.key ++ [key])
    (hkeys : (b.pairs.map Prod.fst).Nodup) {es : Entries} (hkey : key ∉ es.keys)
    (current : List String) :
    b.statements.foldlM Draft.add ⟨plug fs es, current⟩ =
      some ⟨plug fs (es ++ [tableEntry (key, b.pairs)]), b.path⟩ := by
  -- Once its header is there, the new table is the growing one, inside one more frame.
  have hframe : ∀ inner, plug fs (es ++ [(key, .table .header inner)]) =
      plug (fs ++ [⟨es, key, .header⟩]) inner := fun inner =>
    (plug_append fs [⟨es, key, .header⟩] inner).symm
  have hopen := Entries.openTable_plug hfs hkey
  rw [hframe] at hopen
  rw [tableEntry, hframe]
  refine b.foldlM_statements ?_ ?_ hpath hkeys ?_ hopen current
  · simp only [List.forall_mem_append, List.forall_mem_singleton]
    exact ⟨hfs, hkey, nofun⟩
  · rw [innerOrigin, List.foldl_append]
    rfl
  · rw [hpath, List.map_append]
    rfl

/-- A table whose parent is missing is added with its parent. -/
theorem Block.foldlM_statements_inside {b : Block} {parent key : String}
    (hpath : b.path = [parent, key]) (hkeys : (b.pairs.map Prod.fst).Nodup) {root : Entries}
    (hparent : parent ∉ root.keys) (current : List String) :
    b.statements.foldlM Draft.add ⟨root, current⟩ =
      some ⟨root ++ [(parent, .table .implied [tableEntry (key, b.pairs)])], b.path⟩ := by
  have hfs : ∀ f ∈ [Frame.mk root parent .implied, ⟨[], key, .header⟩], f.IsOpen := by
    simp only [List.forall_mem_cons]
    exact ⟨⟨hparent, nofun⟩, ⟨List.not_mem_nil, nofun⟩, by simp⟩
  exact b.foldlM_statements hfs rfl hpath hkeys hpath.symm (Entries.openTable_inside hparent key)
    current

/-! ### Documents -/

/-- Holds of statements that add entries at the end of the growing table, if their keys are new. -/
def Adds (fs : List Frame) (ss : List Statement) (new : Entries) : Prop :=
  ∀ (es : Entries) (current : List String), (es.keys ++ new.keys).Nodup →
    ∃ current', ss.foldlM Draft.add ⟨plug fs es, current⟩ = some ⟨plug fs (es ++ new), current'⟩

theorem adds_nil (fs : List Frame) : Adds fs [] [] := by
  intro es current _
  exact ⟨current, by simp⟩

theorem Adds.append {fs : List Frame} {ss ts : List Statement} {new more : Entries}
    (h : Adds fs ss new) (h' : Adds fs ts more) : Adds fs (ss ++ ts) (new ++ more) := by
  intro es current hkeys
  rw [Entries.keys_append, ← List.append_assoc] at hkeys
  obtain ⟨between, hfirst⟩ := h es current (List.nodup_append.1 hkeys).1
  rw [← Entries.keys_append] at hkeys
  obtain ⟨current', hrest⟩ := h' (es ++ new) between hkeys
  refine ⟨current', ?_⟩
  rw [List.foldlM_append, hfirst, ← List.append_assoc]
  exact hrest

theorem Adds.flatMap {α : Type} {fs : List Frame} {read : α → List Statement}
    {new : α → String × Value} {xs : List α} (h : ∀ x ∈ xs, Adds fs (read x) [new x]) :
    Adds fs (xs.flatMap read) (xs.map new) := by
  induction xs with
  | nil => exact adds_nil fs
  | cons x xs ih =>
    rw [List.forall_mem_cons] at h
    exact h.1.append (ih h.2)

theorem Block.adds {fs : List Frame} (hfs : ∀ f ∈ fs, f.IsOpen) {b : Block} {key : String}
    (hpath : b.path = fs.map Frame.key ++ [key]) (hkeys : (b.pairs.map Prod.fst).Nodup) :
    Adds fs b.statements [tableEntry (key, b.pairs)] := by
  intro es current hnew
  exact ⟨b.path, b.foldlM_statements_plug hfs hpath hkeys (Entries.nodup_concat hnew).1 current⟩

/-- Tables one after another inside a missing one: the first makes it, the others are added. -/
theorem adds_inside (parent : String) {ts : List (String × List (String × Scalar))} (hne : ts ≠ [])
    (hpairs : ∀ t ∈ ts, (t.2.map Prod.fst).Nodup) (hkeys : (ts.map Prod.fst).Nodup) :
    Adds [] (ts.flatMap fun t => Block.statements ⟨[parent, t.1], t.2⟩)
      [(parent, .table .implied (ts.map tableEntry))] := by
  intro root current hnew
  obtain ⟨t, ts, rfl⟩ := List.exists_cons_of_ne_nil hne
  have hparent := (Entries.nodup_concat hnew).1
  rw [List.forall_mem_cons] at hpairs
  have hfirst := Block.foldlM_statements_inside (b := ⟨[parent, t.1], t.2⟩) rfl hpairs.1 hparent
    current
  have hframe : ∀ f ∈ [Frame.mk root parent .implied], f.IsOpen := by
    rw [List.forall_mem_singleton]
    exact ⟨hparent, nofun⟩
  have hadds : Adds [⟨root, parent, .implied⟩]
      (ts.flatMap fun t => Block.statements ⟨[parent, t.1], t.2⟩) (ts.map tableEntry) :=
    .flatMap fun t ht => Block.adds hframe rfl (hpairs.2 t ht)
  rw [← keys_map_tableEntry] at hkeys
  obtain ⟨current', hrest⟩ := hadds [tableEntry t] [parent, t.1] hkeys
  refine ⟨current', ?_⟩
  rw [List.flatMap_cons, List.foldlM_append, plug, hfirst]
  exact hrest

/-- Statements that add entries with different keys to the root describe the table of these. -/
theorem Adds.build?_eq {ss : List Statement} {es : Entries} (h : Adds [] ss es)
    (hkeys : es.keys.Nodup) : build? ss = some es := by
  obtain ⟨current, hread⟩ := h [] [] hkeys
  rw [plug] at hread
  rw [build?, hread]
  rfl

end LocaleClock.Toml
