/-
What leaves a check without a report. A source hands over the body of an
answer or reports that it failed; a catalog that cannot be read is
reported as such. Then two things are left that end the check without a
report, and nothing else does (`check_reports_iff`):

- a version that is an integer beyond the largest double, met while the
  body is read (`Representation.VersionOverflows`);
- a dynamic entry that has a list or an object for a name, met while its
  template is looked up among the stock ones (`Representation.HasKeys`).

The second does no harm if there is nothing to compare with for want of
a catalog: the run is then over before the entries are looked at.

# What is assumed

A body is any JSON value, whatever its names, types, property values,
version and copy field ends are. Two limits of the host are left out of
it. Integers are taken to have no more digits than the reader of bodies
lets through (`Json.maxIntegerDigits`), since a longer one could not be
written into a message; and values may be nested as deeply as one likes,
although a value deeper than `Json.maxDepth` would have been refused
before it came here. Of the catalog it is assumed that it fails in no
other way than by being refused (`hcatalog`): one whose text is nested
too deeply ends the check as well.

# How it is shown

The source decides first: a failure that it reports itself is a report
at once (`Delivery.fetched`). A body that reads goes on to the
validation, and `Checker.validate_eq_ok` says when that has a report;
the two conditions are then the two conjuncts of `Delivery.IsUsable`.
-/
import SchemaAudit.Proofs.Checker
import SchemaAudit.Proofs.Expected.History
import SchemaAudit.Proofs.Payload

namespace SchemaAudit

-- ============================================================ deliveries

/-- What a source hands over: the body of an answer, or its failure, of
the transport or of the protocol, with the message that goes into the
report. -/
inductive Delivery where
  | payload (body : Json)
  | transport (message : String)
  | protocol (message : String)

namespace Delivery

/-- How a source that reads the body itself passes a fault on: a number
that does not fit is none of the failures it reports, so it goes through
as it is; every other fault of the body becomes a failure of the protocol
with its message. -/
def passedOn : PayloadFault → SourceFault PayloadFault
  | .versionTooLarge => .beyond .versionTooLarge
  | fault => .protocol fault.message

/-- What is fetched from a source that reads the body on the way. -/
def fetched : Delivery → Except (SourceFault PayloadFault) Representation
  | .payload body => (Representation.ofPayload body).mapError passedOn
  | .transport message => .error (.transport message)
  | .protocol message => .error (.protocol message)

theorem fetched_of_ok {body : Json} {r : Representation}
    (h : Representation.ofPayload body = .ok r) :
    (payload body).fetched = .ok r := by
  show (Representation.ofPayload body).mapError passedOn = _
  rw [h]
  rfl

/-- A body that does not read is handed over as the fault that it has, in
the form in which the source passes it on. -/
theorem fetched_of_error {body : Json} {fault : PayloadFault}
    (h : Representation.ofPayload body = .error fault) :
    (payload body).fetched = .error (passedOn fault) := by
  show (Representation.ofPayload body).mapError passedOn = _
  rw [h]
  rfl

/-- A delivery that a checker can deal with: its version does not
overflow and, unless there is nothing to compare with for want of a
catalog, no dynamic entry has a list or an object for a name. -/
def IsUsable (c : Checker) : Delivery → Prop
  | .payload body => ¬ Representation.VersionOverflows body
      ∧ ∀ r, Representation.ofPayload body = .ok r →
        (∃ fault, c.expectation = .error fault) ∨ r.HasKeys
  | .transport _ => True
  | .protocol _ => True

end Delivery

-- ============================================================ the checks

/-- A result that is a report of a run that came to its end or failed, and
not one that was raised past the checker. -/
def Reports {α : Type} (result : Except α Report) : Prop :=
  ∃ report, result = .ok report
    ∧ (report.state = .validated ∨ report.state = .failed)

namespace Checker

variable {c : Checker}

/-- A validation reports exactly if there is nothing to compare with or
every dynamic entry has a name that can be looked up. The two cases are
those of `validate_eq_ok`: the report on the catalog, and the report on
what was read. -/
theorem reports_validate_iff {r : Representation}
    (hcatalog : ∀ fault, c.expectation = .error fault →
      fault.tooDeep? = none) :
    Reports (c.validate r).value.2 ↔
      (∃ fault, c.expectation = .error fault) ∨ r.HasKeys := by
  constructor
  · intro h
    obtain ⟨report, h, -⟩ := h
    rcases validate_eq_ok.1 h with ⟨fault, hf, -⟩ | ⟨_, -, hkeys, -⟩
    · exact Or.inl ⟨fault, hf⟩
    · exact Or.inr hkeys
  · intro h
    cases he : c.expectation with
    | error fault =>
        exact ⟨_, validate_eq_ok.2 (Or.inl ⟨fault, he, hcatalog fault he,
          rfl⟩), Or.inr rfl⟩
    | ok expected =>
        have hkeys : r.HasKeys := h.resolve_left fun ⟨fault, hf⟩ => by
          rw [he] at hf
          cases hf
        exact ⟨_, validate_eq_ok.2 (Or.inr ⟨expected, he, hkeys, rfl⟩),
          Or.inl rfl⟩

/-- A check of what was fetched reports exactly if its validation does: it
adds the log lines of the fetch and renames what goes wrong, but catches
nothing. -/
theorem reports_check_iff {ε : Type} {r : Representation}
    {lines : List LogLine} :
    Reports (c.check (ε := ε) ⟨.ok r, lines⟩).value.2 ↔
      Reports (c.validate r).value.2 := by
  rw [value_check_of_ok]
  unfold Reports
  cases (c.validate r).value.2 <;> simp [Except.mapError]

/-- A check reports exactly if the delivery is one that the checker can
deal with. Nothing is asked of the rest of the body: it is any JSON value,
nested as deeply as one likes, with integers of at most as many digits as
the reader of bodies lets through. The one hypothesis says that the
catalog fails in no other way than by being refused. -/
theorem check_reports_iff {d : Delivery} {lines : List LogLine}
    (hcatalog : ∀ fault, c.expectation = .error fault →
      fault.tooDeep? = none) :
    Reports (c.check ⟨d.fetched, lines⟩).value.2 ↔ d.IsUsable c := by
  cases d with
  | transport message => exact iff_of_true ⟨_, rfl, Or.inr rfl⟩ trivial
  | protocol message => exact iff_of_true ⟨_, rfl, Or.inr rfl⟩ trivial
  | payload body =>
      show _ ↔ ¬ Representation.VersionOverflows body ∧ _
      rw [← Representation.ofPayload_eq_tooLarge]
      cases hp : Representation.ofPayload body with
      | error fault =>
          rw [Delivery.fetched_of_error hp]
          cases fault with
          | versionTooLarge =>
              refine iff_of_false ?_ fun h => h.1 rfl
              intro h
              obtain ⟨report, h, -⟩ := h
              cases h
          | _ =>
              refine iff_of_true ⟨_, rfl, Or.inr rfl⟩ ⟨fun h => ?_,
                fun r h => ?_⟩
              · cases h
              · cases h
      | ok r =>
          -- a body that reads is left to the validation
          rw [Delivery.fetched_of_ok hp, reports_check_iff,
            reports_validate_iff hcatalog]
          constructor
          · intro h
            refine ⟨fun h => ?_, fun r' hr' => ?_⟩
            · cases h
            · injection hr' with hr'
              exact hr' ▸ h
          · exact fun h => h.2 r rfl

/-- The name of a dynamic entry is a list: the check ends without a
report. The same name in the section of static fields is an entry that
does not convert, and is reported. -/
theorem check_of_listName :
    ((Checker.mk .null none Metrics.zero).check
        ⟨(Delivery.payload (.obj [("schema", .obj [("dynamicFields",
          .arr [.obj [("name", .arr [.str "*_x"]),
            ("type", .str "string")]])])])).fetched, []⟩).value.2
      = .error (.interrupted (.key .list)) := rfl

/-- With a catalog that is missing, the same body is reported: the run
ends on the catalog before the name is looked up. -/
theorem check_reports_iff_missingCatalog :
    Reports (Checker.check
        ⟨.null, some (.file "catalog.json" .missing,
          Cache.new Cache.usualFullText (.int defaultMaxChars)),
          Metrics.zero⟩
        ⟨(Delivery.payload (.obj [("schema", .obj [("dynamicFields",
          .arr [.obj [("name", .arr [.str "*_x"]),
            ("type", .str "string")]])])])).fetched, []⟩).value.2 := by
  refine (check_reports_iff fun fault h => ?_).2 (And.intro ?_ ?_)
  · injection h with h
    subst h
    rfl
  · intro h
    obtain ⟨schema, n, hs, hv, -⟩ := h
    injection hs with hs
    subst hs
    cases hv
  · exact fun r _ => Or.inl ⟨_, rfl⟩

end Checker

end SchemaAudit
