/-
What settings hold once they are read: each part is what its own reader
makes of the first source that has it, or its usual value
(`read_eq_ok`). The parts do not depend on each other, so settings are
read exactly if every part is.

# The URL that is kept

The URL of the engine has to start as a URL of the web, and loses the
slashes at its end. The start is looked at before the slashes are
dropped, and this order matters: the result is a URL of the web again,
and one that is kept as it is, exactly if something else than slashes
follows its scheme (`readUrl_kept_iff`). If not, the slashes of the
scheme are lost as well, and a word with a colon is stored
(`readUrl_loses_scheme`).

# The URL that is asked

Settings and the client made of them spell the URL of the schema each
for itself. They spell the same one.
-/
import Mathlib.Data.List.DropRight
import SchemaAudit.Http.Client
import SchemaAudit.Proofs.Outcome
import SchemaAudit.Settings

namespace SchemaAudit

open Outcome

-- ==================================================== slashes at the end

namespace Text

/-- The characters that are left are those before the slashes at the end.
-/
theorem toList_withoutSlashes (s : String) :
    (withoutSlashes s).toList = s.toList.rdropWhile (· == '/') :=
  String.toList_ofList

/-- What is left of a text ends in no slash, so all of them are dropped
and not only the last. -/
theorem getLast?_withoutSlashes (s : String) :
    (withoutSlashes s).toList.getLast? ≠ some '/' := by
  rw [toList_withoutSlashes]
  intro h
  have hne : s.toList.rdropWhile (· == '/') ≠ [] := by
    intro hnil
    rw [hnil] at h
    cases h
  rw [List.getLast?_eq_some_getLast hne] at h
  exact List.rdropWhile_last_not _ _ hne (beq_iff_eq.2 (Option.some.inj h))

/-- A text that ends in no slash is left as it is, and dropping slashes
twice is dropping them once. -/
theorem withoutSlashes_withoutSlashes (s : String) :
    withoutSlashes (withoutSlashes s) = withoutSlashes s := by
  apply String.toList_inj.1
  rw [toList_withoutSlashes, toList_withoutSlashes,
    List.rdropWhile_idempotent]

/-- Slashes behind a text are all dropped, and those at its end with them.
This is how a scheme is lost. -/
theorem rdropWhile_append_of_forall {cs rest : List Char}
    (h : ∀ c ∈ rest, c = '/') :
    (cs ++ rest).rdropWhile (· == '/') = cs.rdropWhile (· == '/') := by
  have hnil : rest.reverse.dropWhile (· == '/') = [] :=
    List.dropWhile_eq_nil_iff.2 fun c hc =>
      beq_iff_eq.2 (h c (List.mem_reverse.1 hc))
  unfold List.rdropWhile
  rw [List.reverse_append, List.dropWhile_append, hnil]
  rfl

/-- Slashes are dropped up to the last character that is none. If this
stands behind a scheme, the scheme is not touched. -/
theorem rdropWhile_append_of_exists {cs rest : List Char}
    (h : ∃ c ∈ rest, c ≠ '/') :
    (cs ++ rest).rdropWhile (· == '/')
      = cs ++ rest.rdropWhile (· == '/') := by
  have hne : ¬ (rest.reverse.dropWhile (· == '/')).isEmpty := by
    intro hnil
    obtain ⟨c, hc, hslash⟩ := h
    exact hslash (beq_iff_eq.1 (List.dropWhile_eq_nil_iff.1
      (List.isEmpty_iff.1 hnil) c (List.mem_reverse.2 hc)))
  unfold List.rdropWhile
  rw [List.reverse_append, List.dropWhile_append, if_neg hne,
    List.reverse_append, List.reverse_reverse]

end Text

-- ================================================== settings taken apart

/-- A part is what its reader makes of the value that is found for it, or
its usual value if there is none. -/
theorem SettingSources.read_eq_ok {α : Type} {src : SettingSources}
    {name : String} {usual a : α} {read : Json → Except IssueKind α} :
    src.read name usual read = .ok a ↔
      (src.value? name = none ∧ usual = a)
        ∨ ∃ v, src.value? name = some v ∧ read v = .ok a := by
  unfold SettingSources.read
  cases src.value? name with
  | none => simp
  | some v => simp [Checked.under, mapError_eq_ok]

/-- What one value given directly amounts to: it is found under its own
name in any case of letters, and under no other. -/
theorem SettingSources.value?_given {key lowered : String}
    (h : Text.lower key = lowered) (v : Json) (name : String) :
    value? ⟨[(key, v)], [], []⟩ name
      = if lowered == name then some v else none := by
  unfold value? firstNamed?
  rw [List.find?_cons, h]
  cases lowered == name <;> rfl

namespace Settings

/-- Settings are read exactly if each part of them is, by the reader,
under the name and with the usual value that are its own. -/
theorem read_eq_ok {src : SettingSources} {s : Settings} :
    read src = .ok s ↔
      src.read "solr_url" "http://localhost:8983/solr" readUrl
          = .ok s.solrUrl
        ∧ src.read "solr_collection" "collection1"
            (Validation.readText 1) = .ok s.collection
        ∧ src.read "http_timeout" (Binary64.ofRatio false 30 1)
            readTimeout = .ok s.httpTimeout
        ∧ src.read "connect_timeout" (Binary64.ofRatio false 10 1)
            readTimeout = .ok s.connectTimeout
        ∧ src.read "http_retries" 1 (readBetween 0 3) = .ok s.retries
        ∧ src.read "metadata_catalog_path" none readPath
            = .ok s.catalogPath
        ∧ src.read "copy_field_max_chars" 3000 (readAtLeast 1)
            = .ok s.maxChars
        ∧ src.read "log_level" "info" (Validation.readText 0)
            = .ok s.logLevel
        ∧ src.read "log_json" false Validation.readFlag
            = .ok s.logJson := by
  unfold read
  simp only [Checked.and_eq_ok, Checked.start]
  constructor
  · rintro ⟨_, logJson, ⟨_, logLevel, ⟨_, maxChars, ⟨_, catalogPath,
      ⟨_, retries, ⟨_, connectTimeout, ⟨_, httpTimeout, ⟨_, collection,
      ⟨_, solrUrl, ⟨⟩, h1, rfl⟩, h2, rfl⟩, h3, rfl⟩, h4, rfl⟩, h5, rfl⟩,
      h6, rfl⟩, h7, rfl⟩, h8, rfl⟩, h9, rfl⟩
    exact ⟨h1, h2, h3, h4, h5, h6, h7, h8, h9⟩
  · rintro ⟨h1, h2, h3, h4, h5, h6, h7, h8, h9⟩
    exact ⟨_, _, ⟨_, _, ⟨_, _, ⟨_, _, ⟨_, _, ⟨_, _, ⟨_, _, ⟨_, _, ⟨_, _,
      rfl, h1, rfl⟩, h2, rfl⟩, h3, rfl⟩, h4, rfl⟩, h5, rfl⟩, h6, rfl⟩,
      h7, rfl⟩, h8, rfl⟩, h9, rfl⟩

/-- The settings where only a catalog is named. -/
def withCatalog (path : String) : Settings where
  solrUrl := "http://localhost:8983/solr"
  collection := "collection1"
  httpTimeout := Binary64.ofRatio false 30 1
  connectTimeout := Binary64.ofRatio false 10 1
  retries := 1
  catalogPath := some path
  maxChars := 3000
  logLevel := "info"
  logJson := false

/-- Where only a catalog is named, every other part has its usual value,
and the path is brought to its normal form. -/
theorem read_withCatalog (path : String) :
    read ⟨[("metadata_catalog_path", .str path)], [], []⟩
      = .ok (withCatalog (Text.normalPath path)) := by
  have hlower : Text.lower "metadata_catalog_path"
      = "metadata_catalog_path" := by decide +kernel
  have hvalue := SettingSources.value?_given hlower (.str path)
  simp only [read_eq_ok, SettingSources.read, hvalue]
  exact ⟨rfl, rfl, rfl, rfl, rfl, rfl, rfl, rfl, rfl⟩

/-- Copies are limited to one character at least, whichever source the
limit comes from. -/
theorem one_le_maxChars {src : SettingSources} {s : Settings}
    (h : read src = .ok s) : 1 ≤ s.maxChars := by
  obtain ⟨-, -, -, -, -, -, hchars, -, -⟩ := read_eq_ok.1 h
  rcases SettingSources.read_eq_ok.1 hchars with ⟨-, hn⟩ | ⟨v, -, hv⟩
  · omega
  · obtain ⟨n, -, hn⟩ := bind_eq_ok.1 hv
    split at hn
    case isTrue => cases hn
    case isFalse hless =>
        injection hn with hn
        omega

-- =========================================================== the URL kept

/-- The schemes of the web. -/
def webSchemes : List String := ["http://", "https://"]

/-- Whether something else than slashes follows the scheme of a URL of the
web. -/
def NamesHost (url : String) : Prop :=
  ∃ scheme ∈ webSchemes, ∃ rest,
    url.toList = scheme.toList ++ rest ∧ ∃ c ∈ rest, c ≠ '/'

/-- A URL of the web is one that begins with one of the two schemes, with
anything behind it. -/
theorem isWebUrl_iff {url : String} :
    isWebUrl url = true ↔
      ∃ scheme ∈ webSchemes, ∃ rest, url.toList = scheme.toList ++ rest := by
  unfold isWebUrl webSchemes
  rw [Bool.or_eq_true, List.isPrefixOf_iff_prefix,
    List.isPrefixOf_iff_prefix]
  simp only [List.exists_mem_cons_iff, List.IsPrefix, eq_comm,
    List.not_mem_nil, false_and, exists_false, or_false]

/-- A scheme with nothing but slashes behind it is left as a word and a
colon, since its own slashes are at the end then. -/
theorem withoutSlashes_of_slashes {url : String} (h : isWebUrl url = true)
    (hno : ¬ NamesHost url) :
    Text.withoutSlashes url = "http:" ∨ Text.withoutSlashes url = "https:" := by
  obtain ⟨scheme, hscheme, rest, hurl⟩ := isWebUrl_iff.1 h
  have hslashes : ∀ c ∈ rest, c = '/' := by
    intro c hc
    by_contra hne
    exact hno ⟨scheme, hscheme, rest, hurl, c, hc, hne⟩
  have hleft : (Text.withoutSlashes url).toList
      = scheme.toList.rdropWhile (· == '/') := by
    rw [Text.toList_withoutSlashes, hurl,
      Text.rdropWhile_append_of_forall hslashes]
  rcases List.mem_pair.1 hscheme with rfl | rfl
  · exact Or.inl (String.toList_inj.1 (hleft.trans (by decide)))
  · exact Or.inr (String.toList_inj.1 (hleft.trans (by decide)))

/-- Behind a scheme, what is no slash at the end stays, and so does the
scheme in front of it. -/
theorem isWebUrl_withoutSlashes {url : String} (h : NamesHost url) :
    isWebUrl (Text.withoutSlashes url) = true := by
  obtain ⟨scheme, hscheme, rest, hurl, hrest⟩ := h
  refine isWebUrl_iff.2 ⟨scheme, hscheme, rest.rdropWhile (· == '/'), ?_⟩
  rw [Text.toList_withoutSlashes, hurl,
    Text.rdropWhile_append_of_exists hrest]

/-- What is kept of a URL of the web is one exactly if something else than
slashes follows its scheme. -/
theorem isWebUrl_withoutSlashes_iff {url : String}
    (h : isWebUrl url = true) :
    isWebUrl (Text.withoutSlashes url) = true ↔ NamesHost url := by
  refine ⟨fun hkept => ?_, isWebUrl_withoutSlashes⟩
  by_contra hno
  rcases withoutSlashes_of_slashes h hno with hleft | hleft
  · rw [hleft] at hkept
    exact absurd hkept (by decide)
  · rw [hleft] at hkept
    exact absurd hkept (by decide)

/-- A text is accepted exactly if it is a URL of the web, and what is kept
of it is the text without slashes at its end. -/
theorem readUrl_str {raw url : String} :
    readUrl (.str raw) = .ok url ↔
      isWebUrl raw = true ∧ Text.withoutSlashes raw = url := by
  show checkUrl raw = .ok url ↔ _
  unfold checkUrl
  split
  case isTrue h => simp [h]
  case isFalse h => simp [h]

/-- The URL that is accepted is kept without slashes at its end. It is a
URL of the web, and would be accepted and kept as it is, exactly if
something else than slashes followed the scheme. The client of the engine
and the settings name the same schema. -/
theorem readUrl_kept_iff {raw url : String}
    (h : readUrl (.str raw) = .ok url) :
    url.toList.getLast? ≠ some '/'
      ∧ (isWebUrl url = true ↔ NamesHost raw)
      ∧ (readUrl (.str url) = .ok url ↔ NamesHost raw)
      ∧ ∀ src s, src.value? "solr_url" = some (.str raw) →
          read src = .ok s → s.solrUrl = url
            ∧ (Http.Client.new s.solrUrl s.collection).schemaUrl
              = s.schemaUrl := by
  obtain ⟨hweb, rfl⟩ := readUrl_str.1 h
  have hsame := Text.withoutSlashes_withoutSlashes raw
  refine ⟨Text.getLast?_withoutSlashes raw,
    isWebUrl_withoutSlashes_iff hweb, ?_, fun src s hraw hread => ?_⟩
  · rw [readUrl_str, isWebUrl_withoutSlashes_iff hweb]
    exact and_iff_left hsame
  · have hurl : s.solrUrl = Text.withoutSlashes raw := by
      rcases SettingSources.read_eq_ok.1 (read_eq_ok.1 hread).1 with
        ⟨hnone, -⟩ | ⟨v, hv, hs⟩
      · exact nomatch hraw.symm.trans hnone
      · obtain rfl := Option.some.inj (hraw.symm.trans hv)
        exact (readUrl_str.1 hs).2.symm
    refine ⟨hurl, ?_⟩
    have hkept : Text.withoutSlashes s.solrUrl = s.solrUrl := by
      rw [hurl, hsame]
    show Text.withoutSlashes s.solrUrl ++ "/" ++ s.collection ++ "/schema"
      = _
    rw [hkept]
    rfl

/-- A URL with slashes behind its scheme, inside it and at its end: those
at the end are dropped, and the rest is kept as it is. -/
theorem readUrl_kept_iff_slashes :
    let src : SettingSources :=
      ⟨[("SOLR_URL", .str "http:////solr//x///")], [], []⟩
    readUrl (.str "http:////solr//x///") = .ok "http:////solr//x"
      ∧ isWebUrl "http:////solr//x" = true
      ∧ ∃ s, read src = .ok s
        ∧ (Http.Client.new s.solrUrl s.collection).schemaUrl
          = s.schemaUrl := by
  intro src
  have hread : readUrl (.str "http:////solr//x///")
      = .ok "http:////solr//x" := rfl
  have hhost : NamesHost "http:////solr//x///" :=
    ⟨"http://", List.mem_cons_self .., "//solr//x///".toList,
      by decide, 's', by decide⟩
  have hlower : Text.lower "SOLR_URL" = "solr_url" := by decide +kernel
  have hvalue := SettingSources.value?_given hlower
    (.str "http:////solr//x///")
  have hs : read src = .ok ⟨"http:////solr//x", "collection1",
      Binary64.ofRatio false 30 1, Binary64.ofRatio false 10 1, 1, none,
      3000, "info", false⟩ := by
    simp only [read_eq_ok, SettingSources.read, src, hvalue]
    exact ⟨rfl, rfl, rfl, rfl, rfl, rfl, rfl, rfl, rfl⟩
  obtain ⟨-, hweb, -, hsettings⟩ := readUrl_kept_iff hread
  exact ⟨hread, hweb.2 hhost, _, hs, (hsettings src _ (hvalue _) hs).2⟩

/-- A URL of the web with nothing behind its scheme: a word and a colon
are kept, which are no URL of the web and would be refused in its place. -/
theorem readUrl_loses_scheme :
    readUrl (.str "http://") = .ok "http:" ∧ isWebUrl "http:" = false
      ∧ ∀ url, readUrl (.str "http:") ≠ .ok url := by
  refine ⟨rfl, ?_, fun url h => ?_⟩
  · decide
  · exact absurd (readUrl_str.1 h).1 (by decide)

end Settings

end SchemaAudit
