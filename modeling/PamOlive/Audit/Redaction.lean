import Mathlib.Data.List.Infix
import Mathlib.Logic.Relation
import PamOlive.Audit.Services

/-
  Redaction of the metadata that leaves the installation.

  `redact_metadata` replaces each value under a sensitive key, at any depth, and keeps everything
  else. `str.casefold` is a parameter.
-/

---- Redacting

namespace PamOlive.Audit

open Foundations List

def sensitiveMetadataFragments : List Text :=
  ["authorization", "cookie", "credential", "key", "password", "secret", "ticket", "token"]

def redactedText : Text := "[REDACTED]"

section Redacting

variable (casefold : Text → Text)

def isSensitive (key : Text) : Bool :=
  sensitiveMetadataFragments.any (fun fragment => decide (fragment <:+: casefold key))

mutual

def redactMetadata : Json → Json
| .obj fields => .obj (redactFields fields)
| .arr items => .arr (redactItems items)
| value => value

def redactFields : List (Text × Json) → List (Text × Json)
| [] => []
| (key, nested) :: rest =>
  (key, if isSensitive casefold key then .str redactedText else redactMetadata nested) ::
    redactFields rest

def redactItems : List Json → List Json
| [] => []
| item :: rest => redactMetadata item :: redactItems rest

end

/- `event_payload`, given the usernames of the actors. -/
def eventPayload (username : UserId → Text) (event : AuditEvent) : Json :=
  .obj [("schema", .str "pam-olive.audit.v1"), ("id", .str (Uuid.str event.id)),
    ("sequence", .int event.sequence), ("occurred_at", .str event.occurredAt.isoformat),
    ("actor", event.actorId.elim .null (fun actor => .str (username actor))),
    ("action", .str event.action), ("resource_type", .str event.resourceType),
    ("resource_id", .str event.resourceId), ("source_ip", sourceIpJson event.sourceIp),
    ("metadata", redactMetadata casefold event.metadata),
    ("previous_hash", .str event.previousHash), ("event_hash", .str event.eventHash),
    ("signature", .str event.signature)]

/- One value under a sensitive key, at any depth, is replaced by another. -/
inductive Differs : Json → Json → Prop
  | here {key : Text} (before : List (Text × Json)) (value other : Json)
    (rest : List (Text × Json)) (hSensitive : isSensitive casefold key = true) :
    Differs (.obj (before ++ (key, value) :: rest)) (.obj (before ++ (key, other) :: rest))
  | field {value other : Json} (before : List (Text × Json)) (key : Text)
    (rest : List (Text × Json)) (hDiffers : Differs value other) :
    Differs (.obj (before ++ (key, value) :: rest)) (.obj (before ++ (key, other) :: rest))
  | item {value other : Json} (before rest : List Json) (hDiffers : Differs value other) :
    Differs (.arr (before ++ value :: rest)) (.arr (before ++ other :: rest))

/- No key at any depth is sensitive. -/
inductive Plain : Json → Prop
  | scalar {value : Json} (hFields : ∀ fields, value ≠ .obj fields)
    (hItems : ∀ items, value ≠ .arr items) : Plain value
  | obj {fields : List (Text × Json)}
    (hKeys : ∀ field ∈ fields, isSensitive casefold field.1 = false)
    (hPlain : ∀ field ∈ fields, Plain field.2) : Plain (.obj fields)
  | arr {items : List Json} (hPlain : ∀ item ∈ items, Plain item) : Plain (.arr items)

end Redacting

inductive Segment where
  | key (name : Text)
  | index (position : Nat)

/- The value at a path of keys and positions. -/
def valueAt : List Segment → Json → Option Json
| [], value => some value
| .key name :: rest, .obj fields => (Json.lookup name fields).bind (valueAt rest)
| .index position :: rest, .arr items => items[position]?.bind (valueAt rest)
| _ :: _, _ => none

---- Redaction As A Map

variable {casefold : Text → Text} {value first second : Json}

/- What is left of a value under a key. -/
def redactUnder (casefold : Text → Text) (key : Text) (nested : Json) : Json :=
  if isSensitive casefold key then .str redactedText else redactMetadata casefold nested

theorem redactFields_eq_map (fields : List (Text × Json)) : redactFields casefold fields =
    fields.map (fun field => (field.1, redactUnder casefold field.1 field.2)) := by
  induction fields with
  | nil => rfl
  | cons field rest ih =>
    rw [redactFields, ih]
    rfl

theorem redactItems_eq_map (items : List Json) :
    redactItems casefold items = items.map (redactMetadata casefold) := by
  induction items with
  | nil => rfl
  | cons item rest ih => rw [redactItems, ih, map_cons]

theorem Differs.redactMetadata_eq (hDiffers : Differs casefold first second) :
    redactMetadata casefold first = redactMetadata casefold second := by
  induction hDiffers with
  | here before value other rest hSensitive =>
    simp [redactMetadata, redactFields_eq_map, redactUnder, hSensitive]
  | field before key rest _ ih => simp [redactMetadata, redactFields_eq_map, redactUnder, ih]
  | item before rest _ ih => simp [redactMetadata, redactItems_eq_map, ih]

mutual

theorem redactMetadata_idem : (value : Json) →
    redactMetadata casefold (redactMetadata casefold value) = redactMetadata casefold value
| .obj fields => by simp only [redactMetadata, redactFields_idem fields]
| .arr items => by simp only [redactMetadata, redactItems_idem items]
| .null | .bool _ | .int _ | .float _ | .str _ => by simp only [redactMetadata]

theorem redactFields_idem : (fields : List (Text × Json)) →
    redactFields casefold (redactFields casefold fields) = redactFields casefold fields
| [] => rfl
| (key, nested) :: rest => by
  simp only [redactFields, redactFields_idem rest]
  split
  · rfl
  · rw [redactMetadata_idem nested]

theorem redactItems_idem : (items : List Json) →
    redactItems casefold (redactItems casefold items) = redactItems casefold items
| [] => rfl
| item :: rest => by simp only [redactItems, redactMetadata_idem item, redactItems_idem rest]

end

theorem Plain.redactMetadata_eq (hPlain : Plain casefold value) :
    redactMetadata casefold value = value := by
  induction hPlain with
  | @scalar value hFields hItems =>
    cases value with
    | obj fields => exact absurd rfl (hFields fields)
    | arr items => exact absurd rfl (hItems items)
    | _ => simp only [redactMetadata]
  | obj hKeys _ ih =>
    rw [redactMetadata, redactFields_eq_map, map_congr_left, map_id']
    intro field hMem
    simp [redactUnder, hKeys field hMem, ih field hMem]
  | arr _ ih => rw [redactMetadata, redactItems_eq_map, map_congr_left ih, map_id']

theorem lookup_redactFields {name : Text} (fields : List (Text × Json)) :
    Json.lookup name (redactFields casefold fields) =
      (Json.lookup name fields).map (redactUnder casefold name) := by
  rw [redactFields_eq_map]
  induction fields with
  | nil => rfl
  | cons field rest ih =>
    simp only [map_cons, Json.lookup, ih]
    split
    · next hName => rw [hName, Option.map_some]
    · rfl

theorem valueAt_redactMetadata {path : List Segment}
    (hPath : ∀ name, .key name ∈ path → isSensitive casefold name = false) :
    valueAt path (redactMetadata casefold value) =
      (valueAt path value).map (redactMetadata casefold) := by
  induction path generalizing value with
  | nil => rfl
  | cons segment rest ih =>
    have hRest := fun nested =>
      @ih nested (fun name hMem => hPath name (mem_cons_of_mem _ hMem))
    cases segment with
    | key name =>
      cases value with
      | obj fields =>
        simp only [redactMetadata, valueAt, lookup_redactFields]
        cases Json.lookup name fields with
        | none => rfl
        | some nested => simp [redactUnder, hPath name mem_cons_self, hRest]
      | _ => simp [redactMetadata, valueAt]
    | index position =>
      cases value with
      | arr items =>
        simp only [redactMetadata, valueAt, redactItems_eq_map, getElem?_map]
        cases items[position]? with
        | none => rfl
        | some item => simp [hRest]
      | _ => simp [redactMetadata, valueAt]

/-
  Neither the redacted metadata nor the payload depends on values under sensitive keys. Redacting
  again changes nothing, and all else is kept.
-/
theorem redaction_noninterfering (casefold : Text → Text) :
    (∀ first second, Relation.ReflTransGen (Differs casefold) first second →
      redactMetadata casefold first = redactMetadata casefold second ∧
        ∀ username (event : AuditEvent),
          eventPayload casefold username { event with metadata := first } =
            eventPayload casefold username { event with metadata := second }) ∧
      (∀ value,
        redactMetadata casefold (redactMetadata casefold value) = redactMetadata casefold value) ∧
      ∀ value path found, (∀ name, .key name ∈ path → isSensitive casefold name = false) →
        valueAt path value = some found → Plain casefold found →
          valueAt path (redactMetadata casefold value) = some found := by
  refine ⟨?_, redactMetadata_idem, ?_⟩
  · intro first second hDiffer
    have hSame : redactMetadata casefold first = redactMetadata casefold second := by
      induction hDiffer with
      | refl => rfl
      | tail _ hLast ih => exact ih.trans hLast.redactMetadata_eq
    refine ⟨hSame, ?_⟩
    intro username event
    unfold eventPayload
    rw [hSame]
  · intro value path found hPath hFound hPlain
    rw [valueAt_redactMetadata hPath, hFound, Option.map_some, hPlain.redactMetadata_eq]

theorem redaction_noninterfering_sample :
    redactMetadata id (.arr [.obj [("api_key", .int 1), ("port", .int 22)]]) =
      redactMetadata id (.arr [.obj [("api_key", .null), ("port", .int 22)]]) := by
  refine ((redaction_noninterfering id).1 _ _ (.single ?_)).1
  exact .item [] [] (.here [] _ _ _ (by decide +kernel))

end PamOlive.Audit
