import LocaleClock.Host.World
import LocaleClock.Proofs.Toml.Tables
import LocaleClock.Settings.Loading

/-! Written settings are read back unchanged: what is not set stays so, and customizations that set
nothing are kept. So loading the file with the document of some settings gives these settings, or
the fault that validation finds in them. -/

namespace LocaleClock.Settings

open Toml

/-! ### Collections -/

theorem insertSorted_of_lt {α : Type} {key : String} {es : List (String × α)}
    (h : ∀ e ∈ es, e.1 < key) (value : α) : insertSorted key value es = es ++ [(key, value)] := by
  induction es with
  | nil => rfl
  | cons e es ih =>
    rw [List.forall_mem_cons] at h
    have hne : key ≠ e.1 := fun heq => String.lt_irrefl _ (heq ▸ h.1)
    rw [insertSorted, if_neg (String.lt_asymm h.1), if_neg hne, ih h.2]
    rfl

theorem Sections.entries_foldl_insert (s : Sections) (es : List (String × Customization))
    (h : (s.entries ++ es).Pairwise fun a b => a.1 < b.1) :
    (es.foldl (fun s e => s.insert e.1 e.2) s).entries = s.entries ++ es := by
  induction es generalizing s with
  | nil => simp
  | cons e es ih =>
    have hlt : ∀ d ∈ s.entries, d.1 < e.1 := fun d hd =>
      (List.pairwise_append.1 h).2.2 d hd e List.mem_cons_self
    have hinsert : (s.insert e.1 e.2).entries = s.entries ++ [e] := insertSorted_of_lt hlt e.2
    have hrest := ih (s.insert e.1 e.2) (by simpa [hinsert] using h)
    rw [List.foldl_cons, hrest, hinsert, List.append_assoc]
    rfl

theorem Sections.ofList_entries (s : Sections) : ofList s.entries = s := by
  have h : (ofList s.entries).entries = s.entries := empty.entries_foldl_insert _ s.increasing
  cases s
  exact Sections.mk.injEq .. |>.mpr h

/-! ### Reading sections -/

theorem Formatting.ofValue?_block (key : String) (s : Formatting) :
    ofValue? (tableEntry (key, s.block.pairs)).2 = some s := by
  obtain ⟨format, defaultLocale, utcOffset⟩ := s
  cases utcOffset <;> rfl

theorem Logging.ofValue?_block (key : String) (s : Logging) :
    ofValue? (tableEntry (key, s.block.pairs)).2 = some s := by
  obtain ⟨enabled, level, file⟩ := s
  cases file <;> rfl

def customizationPairs (c : Customization) : List (String × Scalar) :=
  optionalPair "format" c.format ++ optionalPair "base" c.base

theorem customizationOfValue?_pairs (key : String) (c : Customization) :
    customizationOfValue? (tableEntry (key, customizationPairs c)).2 = some c := by
  obtain ⟨format, base⟩ := c
  cases format <;> cases base <;> rfl

/-- The tables of customizations, each under its identifier. -/
def Sections.tables (s : Sections) : List (String × List (String × Scalar)) :=
  s.entries.map fun e => (e.1, customizationPairs e.2)

theorem Sections.ofValue?_tables (s : Sections) (origin : Origin) :
    ofValue? (.table origin (s.tables.map tableEntry)) = some s := by
  have hread : ∀ es : List (String × Customization),
      (es.map fun e => tableEntry (e.1, customizationPairs e.2)).mapM
        (fun e => do return (e.1, ← customizationOfValue? e.2)) = some es := by
    intro es
    induction es with
    | nil => rfl
    | cons e es ih =>
      rw [List.map_cons, List.mapM_cons, ih, customizationOfValue?_pairs]
      rfl
  rw [tables, List.map_map, ofValue?]
  refine (congrArg (Option.bind · _) (hread s.entries)).trans ?_
  exact congrArg some s.ofList_entries

/-! ### Building -/

def blocks (s : Settings) : List Block :=
  [s.formatting.block] ++ s.locales.blocks ++ [s.logging.block]

/-- How the table of customizations comes to be: by a header of its own if there are none, else by
the headers of the customizations. -/
def Sections.origin (s : Sections) : Origin := if s.entries.isEmpty then .header else .implied

def rootEntries (s : Settings) : Entries :=
  [tableEntry ("formatter", s.formatting.block.pairs),
    ("locales", .table s.locales.origin (s.locales.tables.map tableEntry)),
    tableEntry ("logging", s.logging.block.pairs)]

theorem ofEntries?_rootEntries (s : Settings) : ofEntries? s.rootEntries = some s := by
  have hfields : sectionFields? sectionNames (.table .header s.rootEntries) =
      some (s.rootEntries.map fun e => some e.2) := rfl
  rw [ofEntries?, hfields]
  simp only [rootEntries, List.map_cons, List.map_nil, Option.bind_eq_bind, Option.bind_some,
    fieldOr, Formatting.ofValue?_block, Sections.ofValue?_tables, Logging.ofValue?_block]
  rfl

theorem Formatting.adds (s : Formatting) :
    Adds [] s.block.statements [tableEntry ("formatter", s.block.pairs)] := by
  refine Block.adds (by simp) rfl ?_
  obtain ⟨format, defaultLocale, utcOffset⟩ := s
  cases utcOffset <;> simp [block, optionalPair]

theorem Logging.adds (s : Logging) :
    Adds [] s.block.statements [tableEntry ("logging", s.block.pairs)] := by
  refine Block.adds (by simp) rfl ?_
  obtain ⟨enabled, level, file⟩ := s
  cases file <;> simp [block, optionalPair]

theorem Sections.nodup_tables (s : Sections) : (s.tables.map Prod.fst).Nodup := by
  -- Entries are in strictly increasing order of their identifiers, so these differ.
  have hne : s.entries.Pairwise fun a b => a.1 ≠ b.1 := by
    refine s.increasing.imp fun {a b} hlt heq => ?_
    rw [heq] at hlt
    exact String.lt_irrefl _ hlt
  rw [tables, List.map_map, List.Nodup, List.pairwise_map]
  exact hne

theorem Sections.nodup_pairs {s : Sections} {t : String × List (String × Scalar)}
    (h : t ∈ s.tables) : (t.2.map Prod.fst).Nodup := by
  obtain ⟨e, -, rfl⟩ := List.mem_map.1 h
  obtain ⟨format, base⟩ := e.2
  cases format <;> cases base <;> simp [customizationPairs, optionalPair]

/-- The tables of customizations are built into one table, however many there are. -/
theorem Sections.adds (s : Sections) :
    Adds [] (s.blocks.flatMap Block.statements)
      [("locales", .table s.origin (s.tables.map tableEntry))] := by
  unfold blocks origin
  split
  case isTrue h =>
    have hnone : s.tables = [] := by rw [tables, List.isEmpty_iff.1 h, List.map_nil]
    rw [hnone, List.flatMap_singleton]
    exact Block.adds (by simp) rfl List.nodup_nil
  case isFalse h =>
    have hne : s.tables ≠ [] := by simpa [tables] using h
    have hblocks : (s.entries.map fun e => customizationBlock e.1 e.2) =
        s.tables.map fun t => ⟨["locales", t.1], t.2⟩ := by
      rw [tables, List.map_map]
      rfl
    rw [hblocks, List.flatMap_map]
    exact adds_inside "locales" hne (fun _ => nodup_pairs) s.nodup_tables

theorem build?_blocks (s : Settings) :
    build? (s.blocks.flatMap Block.statements) = some s.rootEntries := by
  have hadds : Adds [] (s.blocks.flatMap Block.statements) s.rootEntries := by
    rw [blocks, List.flatMap_append, List.flatMap_append, List.flatMap_singleton,
      List.flatMap_singleton]
    exact (s.formatting.adds.append s.locales.adds).append s.logging.adds
  exact hadds.build?_eq (by simp [Entries.keys, rootEntries, tableEntry])

/-! ### The document -/

theorem isReadable_of_mem_blocks {s : Settings} {b : Block} (h : b ∈ s.blocks) : b.IsReadable := by
  have hlocales : ∀ b ∈ s.locales.blocks, b.IsReadable := by
    intro b hb
    unfold Sections.blocks at hb
    split at hb
    case isTrue =>
      rw [List.mem_singleton.1 hb]
      exact ⟨by simp, by simp [maxDepth]⟩
    case isFalse =>
      obtain ⟨e, -, rfl⟩ := List.mem_map.1 hb
      exact ⟨by simp [customizationBlock], by simp [customizationBlock, maxDepth]⟩
  simp only [blocks, List.mem_append, List.mem_singleton, or_assoc] at h
  rcases h with rfl | hb | rfl
  · exact ⟨by simp [Formatting.block], by simp [Formatting.block, maxDepth]⟩
  · exact hlocales b hb
  · exact ⟨by simp [Logging.block], by simp [Logging.block, maxDepth]⟩

theorem parse?_document (s : Settings) : parse? s.document = some s := by
  have hdocument : s.document = String.ofList (writeBlocks s.blocks) := rfl
  rw [parse?, hdocument, parse?_writeBlocks fun _ => isReadable_of_mem_blocks, build?_blocks,
    Option.bind_some, ofEntries?_rootEntries]

/-! ### The file -/

theorem fromUTF8?_toUTF8 (text : String) : String.fromUTF8? text.toUTF8 = some text := by
  rw [String.fromUTF8?, String.toUTF8_eq_toByteArray, dif_pos text.isValidUTF8]
  rfl

/-- A file is loaded by its text, and nothing changes. -/
theorem loadFrom_of_find? {w : World} {path text : String} {p : Place}
    (hpath : w.files.locate w.current path = .ok p)
    (hfile : w.files.find? p = some (.file text.toUTF8)) :
    (loadFrom path : StateM World (Except LoadError Settings)) w = (ofText path text, w) := by
  have hread : w.files.readText w.current path = .ok text := by
    rw [FileTree.readText, hpath]
    simp only [bind, Except.bind, hfile, fromUTF8?_toUTF8]
  have hhost : (Host.readText path : StateM World (Except FileError String)) w = (.ok text, w) :=
    Prod.ext hread rfl
  unfold loadFrom
  simp only [bind, StateT.bind, hhost]
  rfl

/-- The document of any settings is read as exactly these settings. Loading a file that holds it
gives them if they are accepted, and else the very fault that validation finds. -/
theorem written_settings_read_back (s : Settings) :
    parse? s.document = some s ∧
      ∀ (w : World) (path : String) (p : Place),
        w.files.locate w.current path = .ok p →
        w.files.find? p = some (.file s.document.toUTF8) →
        (s.validate = .ok () →
          (loadFrom path : StateM World (Except LoadError Settings)) w = (.ok s, w)) ∧
        ∀ fault, s.validate = .error fault →
          (loadFrom path : StateM World (Except LoadError Settings)) w =
              (.error (.invalid fault), w) ∧
            (LoadError.invalid fault).report = fault.report := by
  refine ⟨s.parse?_document, fun w path p hpath hfile => ?_⟩
  rw [loadFrom_of_find? hpath hfile, ofText, s.parse?_document]
  constructor
  · intro accepted
    simp only [accepted]
  · intro fault refused
    simp only [refused]
    exact ⟨trivial, rfl⟩

/-- Settings with texts and identifiers that need marks and escapes, in a file of the current
directory; the same with an empty identifier are refused. -/
theorem written_settings_read_back_odd :
    let odd : Settings := {
      formatting := ⟨"%A, \"%d\"\n\\ 'of' %B\x01", " de-AT ", none⟩
      locales := .ofList [("a.b \"c\"", ⟨some "%c", none⟩), ("[x]\ty", ⟨none, none⟩),
        ("x-pirate", ⟨none, some "en_GB"⟩)]
      logging := ⟨true, "Warn", some "/tmp/ä.log"⟩ }
    let refused := { odd with locales := .ofList [("", ⟨none, none⟩)] }
    let host (s : Settings) : World := {
      files := ⟨[(["work", "datestamp.toml"], .file s.document.toUTF8), (["work"], .directory)]⟩
      current := ["work"], home := "/home", configHome := none, time := ⟨0, 0, by decide⟩
      output := "", errorOutput := "" }
    odd.validate = .ok () ∧
      refused.validate = .error .blankIdentifier ∧
      parse? odd.document = some odd ∧
      (loadFrom "datestamp.toml" : StateM World (Except LoadError Settings)) (host odd) =
        (.ok odd, host odd) ∧
      (loadFrom "datestamp.toml" : StateM World (Except LoadError Settings)) (host refused) =
        (.error (.invalid .blankIdentifier), host refused) := by
  intro odd refused host
  have haccepted : odd.validate = .ok () := by decide +kernel
  have hrefused : refused.validate = .error .blankIdentifier := by decide +kernel
  have hlocate (s : Settings) :
      (host s).files.locate (host s).current "datestamp.toml" = .ok ["work", "datestamp.toml"] := by
    rfl
  have hfile (s : Settings) : (host s).files.find? ["work", "datestamp.toml"] =
      some (.file s.document.toUTF8) := by
    rfl
  have hodd := written_settings_read_back odd
  have hother := written_settings_read_back refused
  exact ⟨haccepted, hrefused, hodd.1, (hodd.2 _ _ _ (hlocate odd) (hfile odd)).1 haccepted,
    ((hother.2 _ _ _ (hlocate refused) (hfile refused)).2 _ hrefused).1⟩

end LocaleClock.Settings
