/-
Catalogs in name order. However a list of definitions is kept - at hand,
or written as JSON in a file - its catalog gives them in the stable
order of their names, and if no name comes twice, neither the order of
the list nor the place where it is kept can be told from the catalog. A
cache that is loaded or reloaded ends the same way then, whatever it
held before (`load_eq_of_perm`).

# What is kept in a file

`Definition.IsWrittenAs` says which objects write a definition: the type
and the flag may stand under their short or their full keys, and the
flag may be left out. `read_of_isWrittenAs` shows that each of them is
read back, and `Catalog.Keeps` puts the text around them: bytes that
decode, a text that reads as an array of such objects.

# Order

Sorting is stable (`stablySorted_mergeSort`), a stable order is unique,
and where no name comes twice it does not depend on the order before
(`StablySorted.of_perm`). Everything that a cache makes of a catalog it
makes of its definitions (`load_congr`), so equal definitions mean equal
outcomes.
-/
import SchemaAudit.Expected
import SchemaAudit.Proofs.Outcome
import SchemaAudit.Proofs.Sorted

namespace SchemaAudit

open Outcome

-- ================================================ definitions as written

/-- A definition is written as the entries of an object: its name, the
word for its type, and whether there may be several values, which may be
left out if not. The last two may be under their short or their full keys;
the short ones count. Other entries may stand beside these. -/
structure Definition.IsWrittenAs (d : Definition)
    (entries : List (String × Json)) : Prop where
  nonempty : d.name ≠ ""
  name : Json.find? "name" entries = some (.str d.name)
  type : (Json.find? "type" entries).or
      (Json.find? "declared_type" entries) = some (.str d.type.word)
  multiple : ((Json.find? "allow_multiples" entries).or
      (Json.find? "allows_multiple_values" entries)).getD (.bool false)
        = .bool d.multiple

theorem DeclaredType.read_word (t : DeclaredType) :
    read (.str t.word) = .ok t := by
  cases t <;> rfl

theorem Validation.readText_of_ne {s : String} (h : s ≠ "") :
    readText 1 (.str s) = .ok s := by
  have hlength : ¬ s.length < 1 := by
    rw [Nat.lt_one_iff, String.length_eq_zero_iff]
    exact h
  exact if_neg hlength

namespace Definition

variable {α : Type} {entries : List (String × Json)}

/-- A value is read under the key where it is found, the short one before
the full one. -/
theorem readEntry_of_some {key other : String} {value : Json}
    {absent : Checked α} {read : Json → Except IssueKind α} {a : α}
    (h : (Json.find? key entries).or (Json.find? other entries)
      = some value) (hread : read value = .ok a) :
    readEntry (entryAt? key other entries) absent read = .ok a := by
  have hentry : ∃ k, entryAt? key other entries = some (k, value) := by
    unfold entryAt?
    cases hk : Json.find? key entries with
    | some v =>
        rw [hk, Option.some_or] at h
        exact ⟨key, by rw [Option.some.inj h]; rfl⟩
    | none =>
        rw [hk, Option.none_or] at h
        exact ⟨other, by rw [h]; rfl⟩
  obtain ⟨k, hk⟩ := hentry
  rw [hk]
  show (read value).mapError _ = _
  rw [hread]
  rfl

theorem readEntry_of_none {key other : String} {absent : Checked α}
    {read : Json → Except IssueKind α}
    (h : (Json.find? key entries).or (Json.find? other entries) = none) :
    readEntry (entryAt? key other entries) absent read = absent := by
  obtain ⟨hkey, hother⟩ := Option.or_eq_none_iff.1 h
  unfold entryAt?
  rw [hkey, hother]
  rfl

/-- A definition that is written is read, and nothing that stands beside
its entries is in the way. -/
theorem read_of_isWrittenAs {d : Definition} (h : d.IsWrittenAs entries) :
    read (.obj entries) = .ok d := by
  have hname : readEntry (entryAt? "name" "name" entries)
      (.error [⟨.missing, ["name"]⟩]) (Validation.readText 1)
        = .ok d.name :=
    readEntry_of_some (by rw [Option.or_self]; exact h.name)
      (Validation.readText_of_ne h.nonempty)
  have htype : readEntry (entryAt? "type" "declared_type" entries)
      (.error [⟨.missing, ["type"]⟩]) DeclaredType.read = .ok d.type :=
    readEntry_of_some h.type (DeclaredType.read_word d.type)
  have hmultiple : readEntry
      (entryAt? "allow_multiples" "allows_multiple_values" entries)
      (.ok false) Validation.readFlag = .ok d.multiple := by
    have hvalue := h.multiple
    cases hm : (Json.find? "allow_multiples" entries).or
        (Json.find? "allows_multiple_values" entries) with
    | none =>
        rw [hm] at hvalue
        rw [readEntry_of_none hm, Json.bool.inj hvalue]
    | some value =>
        rw [hm] at hvalue
        obtain rfl : value = .bool d.multiple := hvalue
        exact readEntry_of_some hm rfl
  show readEntries entries = .ok d
  unfold readEntries
  rw [hname, htype, hmultiple]
  rfl

/-- A list of definitions that are written is read in order, wherever in
the catalog it begins. -/
theorem readItems_of_isWrittenAs {ds : List Definition}
    {objects : List (List (String × Json))}
    (h : List.Forall₂ IsWrittenAs ds objects) (position : Nat) :
    readItems position (objects.map .obj) = .ok ds := by
  induction h generalizing position with
  | nil => rfl
  | cons hd _ ih =>
      rw [List.map_cons]
      unfold readItems
      rw [read_of_isWrittenAs hd, ih]
      rfl

end Definition

-- ============================================================== catalogs

namespace Catalog

/-- How a catalog keeps a list of definitions: at hand, or written in the
text of a file as a list of objects. -/
inductive Keeps (ds : List Definition) : Catalog → Prop where
  | listed : Keeps ds (.listed ds)
  | written {path text : String} {content : List UInt8}
      {objects : List (List (String × Json))}
      (htext : Text.decodeUtf8 content = .ok text)
      (hvalue : Json.read (String.ofList (Text.unifyLineEnds text.toList))
        = .ok (.arr (objects.map .obj)))
      (hwritten : List.Forall₂ Definition.IsWrittenAs ds objects) :
      Keeps ds (.file path (.bytes content))

variable {ds ds' : List Definition} {catalog catalog' : Catalog}

/-- A catalog that keeps definitions gives them as they were listed, from
either place. -/
theorem Keeps.entries_eq (h : Keeps ds catalog) :
    catalog.entries = .ok ds := by
  cases h with
  | listed => rfl
  | @written path text content objects htext hvalue hwritten =>
      show readBytes content = .ok ds
      unfold readBytes
      rw [htext]
      show (Except.mapError _ (Json.read _) >>= _) = _
      rw [hvalue]
      show Except.mapError _ (Definition.readItems 0 _) = _
      rw [Definition.readItems_of_isWrittenAs hwritten]
      rfl

/-- A catalog that keeps definitions hands them out in name order, from
either place. -/
theorem Keeps.definitions_eq (h : Keeps ds catalog) :
    catalog.definitions = .ok (Definition.sortByName ds) := by
  unfold definitions
  rw [h.entries_eq]
  rfl

/-- What becomes of a cache is told by the definitions in name order:
neither loading nor reloading asks a catalog for anything else. -/
theorem load_congr (c : Cache)
    (h : catalog.definitions = catalog'.definitions) :
    c.load catalog = c.load catalog'
      ∧ c.reload catalog = c.reload catalog' := by
  have hbuild : c.build catalog = c.build catalog' := by
    unfold Cache.build
    rw [h]
  unfold Cache.load Cache.reload
  rw [hbuild]
  exact ⟨rfl, rfl⟩

/-- The definitions of a catalog are those it keeps, in the stable order of
their names. If no name comes twice, two catalogs that keep the same
definitions in any order are the same to every cache: it is loaded and
reloaded from them with the same fault or the same content. -/
theorem load_eq_of_perm (h : Keeps ds catalog) (h' : Keeps ds' catalog')
    (hp : ds.Perm ds') :
    (∃ sorted, catalog.definitions = .ok sorted
        ∧ StablySorted Definition.name ds sorted)
      ∧ ((ds.map Definition.name).Nodup →
        catalog.definitions = catalog'.definitions
          ∧ ∀ c : Cache, c.load catalog = c.load catalog'
            ∧ c.reload catalog = c.reload catalog') := by
  have hsorted : StablySorted Definition.name ds
      (Definition.sortByName ds) := stablySorted_mergeSort ds
  have hsorted' : StablySorted Definition.name ds'
      (Definition.sortByName ds') := stablySorted_mergeSort ds'
  refine ⟨⟨_, h.definitions_eq, hsorted⟩, fun hn => ?_⟩
  have heq : catalog.definitions = catalog'.definitions := by
    rw [h.definitions_eq, h'.definitions_eq,
      (hsorted.of_perm hn hp).unique hsorted']
  exact ⟨heq, fun c => load_congr c heq⟩

/-- Two definitions. -/
def sample : List Definition :=
  [⟨"place", .text, false⟩, ⟨"link", .url, false⟩]

/-- The text of a file with the same two, the second one first. -/
def sampleText : String :=
  "[\x7b\"name\":\"link\",\"type\":\"url\"\x7d,"
    ++ "\x7b\"type\":\"text\",\"name\":\"place\"\x7d]"

set_option maxRecDepth 4000 in
theorem keeps_sampleText :
    Keeps sample.reverse
      (.file "fields.json" (.bytes sampleText.toUTF8.toList)) := by
  have htext : Text.decodeUtf8 sampleText.toUTF8.toList
      = .ok sampleText := by decide +kernel
  have hvalue : Json.read
      (String.ofList (Text.unifyLineEnds sampleText.toList))
        = .ok (.arr (List.map .obj
          [[("name", .str "link"), ("type", .str "url")],
            [("type", .str "text"), ("name", .str "place")]])) := by cbv
  refine .written htext hvalue (.cons ?_ (.cons ?_ .nil))
  · exact ⟨by decide, rfl, rfl, rfl⟩
  · exact ⟨by decide, rfl, rfl, rfl⟩

/-- A cache is loaded alike from the list at hand and from the file, which
has the same two definitions in the other order. -/
theorem load_eq_of_perm_sample :
    (∃ sorted, (Catalog.listed sample).definitions = .ok sorted
        ∧ StablySorted Definition.name sample sorted)
      ∧ (Cache.new Cache.usualFullText (.int 100)).load (.listed sample)
        = (Cache.new Cache.usualFullText (.int 100)).load
          (.file "fields.json" (.bytes sampleText.toUTF8.toList)) := by
  have h := load_eq_of_perm .listed keeps_sampleText
    (List.reverse_perm sample).symm
  exact ⟨h.1, ((h.2 (by decide)).2 _).1⟩

end Catalog

end SchemaAudit
