import LocaleClock.Proofs.Toml.Texts

/-! Written documents are read back as statements: each table as its header and its pairs, in order.
A line is read whatever lines come after it, and so are lines one after another. -/

namespace LocaleClock.Toml

/-! ### The statements of a table -/

/-- The value that is read for a written one. -/
def Scalar.value : Scalar → Value
  | .text s => .text s
  | .boolean b => .boolean b

def KeyPath.ofKeys (keys : List String) : KeyPath := ⟨keys.dropLast, keys.getLastD ""⟩

/-- The header and the pairs of a table. -/
def Block.statements (b : Block) : List Statement :=
  .header (.ofKeys b.path) :: b.pairs.map fun p => .pair ⟨[], p.1⟩ p.2.value

/-- Holds of the tables whose header can be read: its path has keys, and not too many. -/
structure Block.IsReadable (b : Block) : Prop where
  path_ne_nil : b.path ≠ []
  length_path_le : b.path.length ≤ maxDepth

/-! ### Values -/

theorem skipSpaces_eq_self {cs : List Char} (h : ∀ c ∈ cs.head?, isSpace c = false) :
    skipSpaces cs = cs := (takeWhile_eq_nil h).2

theorem exists_writeText (text : String) :
    ∃ c cs, writeText text = c :: cs ∧ isMark c = true := by
  unfold writeText
  cases TextForm.of text.toList
  · exact ⟨'"', _, rfl, rfl⟩
  · exact ⟨'\'', _, rfl, rfl⟩
  · exact ⟨'"', _, rfl, rfl⟩
  · exact ⟨'\'', _, rfl, rfl⟩

theorem value?_of_isMark {c : Char} (hc : isMark c = true) (cs : List Char) :
    value? (c :: cs) = (quotedText? (c :: cs)).map fun x => (.text (String.ofList x.1), x.2) := by
  obtain rfl | rfl : c = '"' ∨ c = '\'' := by simpa [isMark] using hc
  · rfl
  · rfl

/-- A written value is read back up to the end of its line. -/
theorem value?_write (v : Scalar) (rest : List Char) :
    value? (v.write ++ '\n' :: rest) = some (v.value, '\n' :: rest) := by
  cases v with
  | text s =>
    obtain ⟨c, cs, heq, hc⟩ := exists_writeText s
    have hread : quotedText? (writeText s ++ '\n' :: rest) = some (s.toList, '\n' :: rest) :=
      quotedText?_writeText s (by simp [isMark])
    rw [heq, List.cons_append] at hread
    rw [Scalar.write, heq, List.cons_append, value?_of_isMark hc, hread, Option.map_some,
      String.ofList_toList]
    rfl
  | boolean b => cases b <;> rfl

/-- The blank before a value is no part of it. -/
theorem skipSpaces_write (v : Scalar) (rest : List Char) :
    skipSpaces (' ' :: (v.write ++ rest)) = v.write ++ rest := by
  have hstart : ∀ c ∈ (v.write ++ rest).head?, isSpace c = false := by
    cases v with
    | text s =>
      obtain ⟨c, cs, heq, hc⟩ := exists_writeText s
      obtain rfl | rfl : c = '"' ∨ c = '\'' := by simpa [isMark] using hc
      · simp [Scalar.write, heq, isSpace]
      · simp [Scalar.write, heq, isSpace]
    | boolean b => cases b <;> simp [Scalar.write, isSpace]
  exact skipSpaces_eq_self hstart

/-! ### Paths -/

theorem dottedKeys?_last {cs rest : List Char} {key : String} (hkey : key? cs = some (key, rest))
    (hdot : ∀ more, skipSpaces rest ≠ '.' :: more) :
    dottedKeys? cs = some (⟨[], key⟩, skipSpaces rest) := by
  rw [dottedKeys?, hkey]
  simp only [Option.bind_eq_bind, Option.bind_some]
  rfl

theorem dottedKeys?_dot {cs rest more : List Char} {key : String}
    (hkey : key? cs = some (key, rest)) (hdot : skipSpaces rest = '.' :: more)
    (hlt : (skipSpaces more).length < cs.length) :
    dottedKeys? cs = (dottedKeys? (skipSpaces more)).map fun x =>
      (⟨key :: x.1.parents, x.1.key⟩, x.2) := by
  rw [dottedKeys?, hkey]
  simp only [Option.bind_eq_bind, Option.bind_some, hdot, dif_pos hlt]
  cases dottedKeys? (skipSpaces more) <;> rfl

theorem isSpace_of_starts {c : Char} (h : isMark c = true ∨ isBareKeyChar c = true) :
    isSpace c = false := by
  rw [Bool.eq_false_iff]
  intro hspace
  obtain rfl | rfl : c = ' ' ∨ c = '\t' := by simpa [isSpace] using hspace
  · exact absurd h (by decide)
  · exact absurd h (by decide)

theorem exists_intercalate (key : String) (keys : List String) :
    ∃ c cs, ['.'].intercalate ((key :: keys).map writeKey) = c :: cs ∧
      (isMark c = true ∨ isBareKeyChar c = true) := by
  obtain ⟨c, cs, hkey, hc⟩ := exists_writeKey key
  cases keys with
  | nil => exact ⟨c, cs, by simp [hkey], hc⟩
  | cons next keys =>
    refine ⟨c, cs ++ ['.'] ++ ['.'].intercalate ((next :: keys).map writeKey), ?_, hc⟩
    rw [List.map_cons, List.map_cons, List.intercalate_cons_cons, hkey]
    simp

/-- Written keys with dots between them are read back up to the bracket that ends a header. -/
theorem dottedKeys?_intercalate (key : String) (keys : List String) (rest : List Char) :
    dottedKeys? (['.'].intercalate ((key :: keys).map writeKey) ++ ']' :: rest) =
      some (.ofKeys (key :: keys), ']' :: rest) := by
  induction keys generalizing key with
  | nil =>
    have hkey : key? (writeKey key ++ ']' :: rest) = some (key, ']' :: rest) :=
      key?_writeKey key (by simp; decide)
    have hend : skipSpaces (']' :: rest) = ']' :: rest := rfl
    rw [List.map_singleton, List.intercalate_singleton, dottedKeys?_last hkey (by simp [hend]),
      hend]
    rfl
  | cons next keys ih =>
    obtain ⟨c, cs, hnext, hc⟩ := exists_intercalate next keys
    have hmore : skipSpaces (['.'].intercalate ((next :: keys).map writeKey) ++ ']' :: rest) =
        ['.'].intercalate ((next :: keys).map writeKey) ++ ']' :: rest := by
      rw [hnext]
      exact skipSpaces_eq_self (by simp [isSpace_of_starts hc])
    rw [List.map_cons, List.map_cons, List.intercalate_cons_cons, ← List.map_cons,
      List.append_assoc, List.append_assoc, List.singleton_append]
    rw [dottedKeys?_dot (key?_writeKey key (by simp; decide)) rfl, hmore, ih]
    · rfl
    · rw [hmore]
      simp only [List.length_append, List.length_cons]
      omega

theorem keyPath?_eq {cs rest : List Char} {path : KeyPath}
    (h : dottedKeys? cs = some (path, rest)) (hdepth : path.parents.length < maxDepth) :
    keyPath? cs = some (path, rest) := by
  rw [keyPath?, h]
  simp only [Option.bind_eq_bind, Option.bind_some, if_pos hdepth]
  rfl

/-! ### Lines -/

def headerLine (keys : List String) : List Char :=
  '[' :: ['.'].intercalate (keys.map writeKey) ++ [']', '\n']

def pairLine (p : String × Scalar) : List Char :=
  writeKey p.1 ++ " = ".toList ++ p.2.write ++ ['\n']

theorem Block.write_eq (b : Block) : b.write = headerLine b.path ++ b.pairs.flatMap pairLine := rfl

theorem statement?_header {keys : List String} (hne : keys ≠ []) (hlen : keys.length ≤ maxDepth)
    (rest : List Char) :
    statement? (headerLine keys ++ rest) = some (.header (.ofKeys keys), '\n' :: rest) := by
  obtain ⟨key, keys, rfl⟩ := List.exists_cons_of_ne_nil hne
  obtain ⟨c, cs, hstart, hc⟩ := exists_intercalate key keys
  have hbracket : c ≠ '[' := by rintro rfl; exact absurd hc (by decide)
  have hdepth : (KeyPath.ofKeys (key :: keys)).parents.length < maxDepth := by
    rw [KeyPath.ofKeys, List.length_dropLast]
    simp only [List.length_cons] at hlen ⊢
    omega
  have hpath := keyPath?_eq (dottedKeys?_intercalate key keys ('\n' :: rest)) hdepth
  have hspaces : skipSpaces (c :: cs ++ ']' :: '\n' :: rest) = c :: cs ++ ']' :: '\n' :: rest :=
    skipSpaces_eq_self (by simp [isSpace_of_starts hc])
  rw [hstart] at hpath
  rw [headerLine, hstart, List.append_assoc, List.cons_append, statement?]
  · simp only [List.cons_append, List.nil_append] at hspaces hpath ⊢
    rw [hspaces, hpath]
    rfl
  · simpa using hbracket

theorem statement?_pair (p : String × Scalar) (rest : List Char) :
    statement? (pairLine p ++ rest) = some (.pair ⟨[], p.1⟩ p.2.value, '\n' :: rest) := by
  obtain ⟨c, cs, hstart, hc⟩ := exists_writeKey p.1
  have hbracket : c ≠ '[' := by rintro rfl; exact absurd hc (by decide)
  have hline : pairLine p ++ rest =
      writeKey p.1 ++ ' ' :: '=' :: ' ' :: (p.2.write ++ '\n' :: rest) := by
    simp [pairLine]
  have hkey : key? (writeKey p.1 ++ ' ' :: '=' :: ' ' :: (p.2.write ++ '\n' :: rest)) =
      some (p.1, ' ' :: '=' :: ' ' :: (p.2.write ++ '\n' :: rest)) :=
    key?_writeKey p.1 (by simp; decide)
  have hpath := keyPath?_eq (dottedKeys?_last hkey (by simp [skipSpaces, isSpace]))
    (by simp [maxDepth])
  have hgap : skipSpaces (skipSpaces (' ' :: '=' :: ' ' :: (p.2.write ++ '\n' :: rest))) =
      '=' :: ' ' :: (p.2.write ++ '\n' :: rest) := rfl
  have hpair : pair? (fun rest => some (skipSpaces rest)) value? (pairLine p ++ rest) =
      some ((⟨[], p.1⟩, p.2.value), '\n' :: rest) := by
    rw [hline, pair?, hpath]
    simp only [Option.bind_eq_bind, Option.bind_some, hgap, skipSpaces_write, value?_write]
    rfl
  rw [hline, hstart, List.cons_append] at hpair ⊢
  rw [statement?, hpair, Option.map_some]
  · exact fun _ h => hbracket (List.cons.inj h).1
  · exact fun _ h => hbracket (List.cons.inj h).1

/-! ### Documents -/

/-- Holds of a text that is read as these statements, whatever comes after it. -/
def IsReadAs (cs : List Char) (ss : List Statement) : Prop :=
  ∀ rest, statements? (cs ++ rest) = (statements? rest).map (ss ++ ·)

theorem isReadAs_nil : IsReadAs [] [] := by
  intro rest
  simp

theorem IsReadAs.append {cs ds : List Char} {ss ts : List Statement} (h : IsReadAs cs ss)
    (h' : IsReadAs ds ts) : IsReadAs (cs ++ ds) (ss ++ ts) := by
  intro rest
  rw [List.append_assoc, h, h', Option.map_map]
  congr 1
  funext read
  simp

theorem IsReadAs.flatMap {α : Type} {write : α → List Char} {read : α → Statement} {xs : List α}
    (h : ∀ x ∈ xs, IsReadAs (write x) [read x]) : IsReadAs (xs.flatMap write) (xs.map read) := by
  induction xs with
  | nil => exact isReadAs_nil
  | cons x xs ih =>
    rw [List.forall_mem_cons] at h
    exact h.1.append (ih h.2)

/-- Holds of a text that is passed over before a statement. -/
def IsTrivia (cs : List Char) : Prop :=
  ∀ rest, skipTrivia false (cs ++ rest) = skipTrivia false rest

theorem isTrivia_nil : IsTrivia [] := fun _ => rfl

theorem IsTrivia.append {cs ds : List Char} (h : IsTrivia cs) (h' : IsTrivia ds) :
    IsTrivia (cs ++ ds) := by
  intro rest
  rw [List.append_assoc, h, h']

theorem isTrivia_lineBreaks (n : Nat) : IsTrivia (List.replicate n '\n') := by
  intro rest
  induction n with
  | zero => rfl
  | succ n ih => rw [List.replicate_succ, List.cons_append, skipTrivia, ih]

theorem skipTrivia_true_cons {c : Char} (hc : isPlainChar c = true) (cs : List Char) :
    skipTrivia true (c :: cs) = skipTrivia true cs := by
  have hne : ∀ d, isPlainChar d = false → c ≠ d := by
    rintro d hd rfl
    rw [hc] at hd
    cases hd
  rw [skipTrivia]
  · rw [if_pos hc]
  · exact hne '\n' (by decide)
  · exact fun _ h => absurd h (hne '\r' (by decide))

theorem skipTrivia_true_append {cs : List Char} (h : ∀ c ∈ cs, isPlainChar c = true)
    (rest : List Char) : skipTrivia true (cs ++ '\n' :: rest) = skipTrivia false rest := by
  induction cs with
  | nil => rw [List.nil_append, skipTrivia]
  | cons c cs ih =>
    rw [List.forall_mem_cons] at h
    rw [List.cons_append, skipTrivia_true_cons h.1, ih h.2]

theorem isTrivia_comment {cs : List Char} (h : ∀ c ∈ cs, isPlainChar c = true) :
    IsTrivia ('#' :: cs ++ ['\n']) := by
  intro rest
  rw [List.cons_append, List.cons_append, skipTrivia, List.append_assoc]
  exact skipTrivia_true_append h rest

/-- The characters that lines with statements start with. -/
def startsLine (c : Char) : Bool := c == '[' || isMark c || isBareKeyChar c

theorem skipTrivia_of_startsLine {c : Char} (hc : startsLine c = true) (cs : List Char) :
    skipTrivia false (c :: cs) = some (c :: cs) := by
  have hne : ∀ d more, startsLine d = false → c :: cs ≠ d :: more := by
    intro d more hd heq
    rw [(List.cons.inj heq).1, hd] at hc
    cases hc
  rw [skipTrivia]
  · simp
  · exact fun _ => hne '\n' _ (by decide)
  · exact fun _ => hne '\r' _ (by decide)
  · exact fun _ => hne ' ' _ (by decide)
  · exact fun _ => hne '\t' _ (by decide)
  · exact fun _ => hne '#' _ (by decide)

/-- A line with a statement is read, also after empty lines and comments. -/
theorem isReadAs_line {before line : List Char} {s : Statement} (hbefore : IsTrivia before)
    (hstart : ∃ c cs, line = c :: cs ∧ startsLine c = true)
    (hs : ∀ rest, statement? (line ++ rest) = some (s, '\n' :: rest)) :
    IsReadAs (before ++ line) [s] := by
  obtain ⟨c, cs, rfl, hc⟩ := hstart
  intro rest
  have htrivia : skipTrivia false (before ++ (c :: cs) ++ rest) = some (c :: cs ++ rest) := by
    rw [List.append_assoc, hbefore]
    exact skipTrivia_of_startsLine hc _
  -- The reader only goes on when the rest is shorter than what it started with.
  have hlt : rest.length < (before ++ (c :: cs) ++ rest).length := by
    simp only [List.length_append, List.length_cons]
    omega
  have hend : skipLineEnd ('\n' :: rest) = some rest := rfl
  have hline := hs rest
  rw [List.cons_append] at htrivia hline
  rw [statements?, htrivia]
  simp only [Option.bind_eq_bind, Option.bind_some, hline, hend, dif_pos hlt]
  cases statements? rest <;> rfl

theorem isReadAs_headerLine {before : List Char} (hbefore : IsTrivia before) {keys : List String}
    (hne : keys ≠ []) (hlen : keys.length ≤ maxDepth) :
    IsReadAs (before ++ headerLine keys) [.header (.ofKeys keys)] :=
  isReadAs_line hbefore ⟨_, _, rfl, by decide⟩ (statement?_header hne hlen)

theorem isReadAs_pairLine {before : List Char} (hbefore : IsTrivia before) (p : String × Scalar) :
    IsReadAs (before ++ pairLine p) [.pair ⟨[], p.1⟩ p.2.value] := by
  obtain ⟨c, cs, hstart, hc⟩ := exists_writeKey p.1
  refine isReadAs_line hbefore ⟨c, _, by rw [pairLine, hstart]; rfl, ?_⟩ (statement?_pair p)
  simpa [startsLine, or_assoc] using Or.inr hc

theorem Block.IsReadable.isReadAs {b : Block} (h : b.IsReadable) (n : Nat) :
    IsReadAs (List.replicate n '\n' ++ b.write) b.statements := by
  rw [b.write_eq, ← List.append_assoc]
  exact (isReadAs_headerLine (isTrivia_lineBreaks n) h.path_ne_nil h.length_path_le).append
    (.flatMap fun p _ => isReadAs_pairLine isTrivia_nil p)

/-- Tables are read one after another, with empty lines between them. -/
theorem isReadAs_intercalate {b : Block} {blocks : List Block}
    (h : ∀ b' ∈ b :: blocks, b'.IsReadable) (n : Nat) :
    IsReadAs (List.replicate n '\n' ++ ['\n'].intercalate ((b :: blocks).map Block.write))
      ((b :: blocks).flatMap Block.statements) := by
  induction blocks generalizing b n with
  | nil =>
    rw [List.map_singleton, List.intercalate_singleton, List.flatMap_singleton]
    exact (h b List.mem_cons_self).isReadAs n
  | cons next blocks ih =>
    rw [List.forall_mem_cons] at h
    have hfirst := h.1.isReadAs n
    have hrest := ih h.2 1
    rw [List.map_cons, List.map_cons, List.intercalate_cons_cons, ← List.map_cons,
      List.flatMap_cons, List.append_assoc, ← List.append_assoc]
    exact hfirst.append hrest

/-- A written document is read as the statements of its tables. -/
theorem statements?_writeBlocks {blocks : List Block} (h : ∀ b ∈ blocks, b.IsReadable) :
    statements? (writeBlocks blocks) = some (blocks.flatMap Block.statements) := by
  have hend : statements? [] = some [] := by
    rw [statements?]
    rfl
  cases blocks with
  | nil => exact hend
  | cons b blocks =>
    have hread := isReadAs_intercalate h 0 []
    rw [hend, List.append_nil] at hread
    simpa [writeBlocks] using hread

/-- A written document describes the table that the statements of its tables build. -/
theorem parse?_writeBlocks {blocks : List Block} (h : ∀ b ∈ blocks, b.IsReadable) :
    parse? (String.ofList (writeBlocks blocks)) = build? (blocks.flatMap Block.statements) := by
  have hmark : skipMark (writeBlocks blocks) = writeBlocks blocks := by
    cases blocks with
    | nil => rfl
    | cons b blocks =>
      cases blocks with
      | nil => rfl
      | cons => rfl
  rw [parse?, String.toList_ofList, hmark, statements?_writeBlocks h, Option.bind_some]

end LocaleClock.Toml
