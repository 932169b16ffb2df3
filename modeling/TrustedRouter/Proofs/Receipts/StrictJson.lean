import TrustedRouter.Proofs.Receipts.Accepted

/-!
# `TrustedRouter.Proofs.Receipts.StrictJson`: what the strict reader accepts

`load_json` does not use the `Value` parser of `serde_json`. It drives its own visitor over
the parser's events, and that visitor stops at the second member of one name. Two readers
of the same signed bytes could otherwise see two different members.

`strictValue_eq_ok` compares the two visitors on one tree. The strict one returns a value
exactly when no object of the tree repeats a name (`Raw.NoRepeats`, which looks at every
object inside and knows nothing of the visitor), and the value is the one the ordinary
visitor builds. The three statements follow the three functions of the visitor. The one
for `visit_map` carries the set of names seen and the members kept so far.

`loadJson_strict` is the result over bytes, for whatever the parser reads off their front.
Names are the decoded ones: the parser resolves escapes before a visitor sees a name.
-/

set_option autoImplicit false

namespace TrustedRouter.Proofs.Receipts

open Rust (Bytes)
open Rust.Result
open Rust.Str
open Serde (Raw Value)
open TrustedRouter.Receipts

section
variable {lib : Library}

/-- The scalars hold no object, so there is nothing in them to repeat a name. -/
theorem noRepeats_scalar {raw : Raw} (harray : ∀ values, raw ≠ .array values)
    (hobject : ∀ members, raw ≠ .object members) : raw.NoRepeats := by
  intro members hinside
  cases hinside with
  | here => exact absurd rfl (hobject members)
  | element => exact absurd rfl (harray _)
  | member => exact absurd rfl (hobject _)

mutual

/-- The strict visitor accepts the trees without a repeated name, with the ordinary value. The
induction is mutual, on the tree, its elements and its members. -/
theorem strictValue_eq_ok : ∀ {raw : Raw} {value : Value},
    strictValue lib raw = .ok value ↔ raw.NoRepeats ∧ raw.toValue = value
  | .null, value => by
      simp [strictValue, Raw.toValue, noRepeats_scalar]
  | .bool b, value => by
      simp [strictValue, Raw.toValue, noRepeats_scalar]
  | .number n, value => by
      simp [strictValue, Raw.toValue, noRepeats_scalar]
  | .string s, value => by
      simp [strictValue, Raw.toValue, noRepeats_scalar]
  | .array values, value => by
      simp only [strictValue, Raw.toValue, Raw.noRepeats_array, bind_eq_ok, strictSeq_eq_ok]
      constructor
      · rintro ⟨_, ⟨hvalues, rfl⟩, hvalue⟩
        exact ⟨hvalues, Except.ok.inj hvalue⟩
      · rintro ⟨hvalues, rfl⟩
        exact ⟨_, ⟨hvalues, rfl⟩, rfl⟩
  | .object members, value => by
      simp only [strictValue, Raw.toValue, Raw.noRepeats_object, bind_eq_ok, strictMap_eq_ok]
      constructor
      · rintro ⟨_, ⟨hnodup, -, hmembers, rfl⟩, hvalue⟩
        exact ⟨⟨hnodup, hmembers⟩, Except.ok.inj hvalue⟩
      · rintro ⟨⟨hnodup, hmembers⟩, rfl⟩
        exact ⟨_, ⟨hnodup, fun _ _ => List.not_mem_nil, hmembers, rfl⟩, rfl⟩

/-- `visit_seq`: every element is accepted. -/
theorem strictSeq_eq_ok : ∀ {raws : List Raw} {values : List Value},
    strictSeq lib raws = .ok values ↔
      (∀ raw ∈ raws, raw.NoRepeats) ∧ Raw.toValues raws = values
  | [], values => by simp [strictSeq, Raw.toValues]
  | raw :: rest, values => by
      simp only [strictSeq, Raw.toValues, bind_eq_ok, strictValue_eq_ok, strictSeq_eq_ok,
        List.forall_mem_cons]
      constructor
      · rintro ⟨_, ⟨hraw, rfl⟩, _, ⟨hrest, rfl⟩, hvalues⟩
        exact ⟨⟨hraw, hrest⟩, Except.ok.inj hvalues⟩
      · rintro ⟨⟨hraw, hrest⟩, rfl⟩
        exact ⟨_, ⟨hraw, rfl⟩, _, ⟨hrest, rfl⟩, rfl⟩

/-- `visit_map`, in the middle of an object: the names to come are new and differ from each
other, every member is accepted, and the members are inserted as the ordinary visitor
inserts them. -/
theorem strictMap_eq_ok : ∀ {members : List (String × Raw)} {seen : List String}
    {kept values : Serde.Map},
    strictMap lib members seen kept = .ok values ↔
      (members.map Prod.fst).Nodup ∧ (∀ m ∈ members, m.1 ∉ seen) ∧
        (∀ m ∈ members, m.2.NoRepeats) ∧ Raw.toMap members kept = values
  | [], seen, kept, values => by simp [strictMap, Raw.toMap]
  | (key, raw) :: rest, seen, kept, values => by
      simp only [strictMap, Raw.toMap, bind_eq_ok, exists_unit, ensure_eq_ok,
        strictValue_eq_ok, strictMap_eq_ok, List.forall_mem_cons, List.map_cons,
        List.nodup_cons, Bool.not_eq_true', List.contains_eq_mem, decide_eq_false_iff_not]
      -- The set of names grows by this member's: a later member differs from it exactly
      -- when this name does not occur among the later ones.
      have hseen : (∀ m ∈ rest, m.1 ∉ key :: seen) ↔
          key ∉ rest.map Prod.fst ∧ ∀ m ∈ rest, m.1 ∉ seen := by
        simp only [List.mem_cons, not_or, forall_and, List.mem_map, not_exists, not_and]
      rw [hseen]
      constructor
      · rintro ⟨hkey, _, ⟨hraw, rfl⟩, hnodup, ⟨hfresh, hrest⟩, hmembers, hvalues⟩
        exact ⟨⟨hfresh, hnodup⟩, ⟨hkey, hrest⟩, ⟨hraw, hmembers⟩, hvalues⟩
      · rintro ⟨⟨hfresh, hnodup⟩, ⟨hkey, hrest⟩, ⟨hraw, hmembers⟩, hvalues⟩
        exact ⟨hkey, _, ⟨hraw, rfl⟩, hnodup, ⟨hfresh, hrest⟩, hmembers, hvalues⟩

end

/-- What `load_json` returns, for whatever the parser reads: the tree has no repeated name,
only whitespace follows it, and the value is the ordinary one. -/
theorem loadJson_eq_ok_iff {data : Bytes} {check : String} {value : Value} :
    loadJson lib data check = .ok value ↔
      ∃ raw rest, lib.read data = .ok (raw, rest) ∧ raw.NoRepeats ∧
        rest.all Serde.isJsonWhitespace = true ∧ raw.toValue = value := by
  simp only [loadJson_eq_ok, strictValue_eq_ok]
  constructor
  · rintro ⟨raw, rest, hread, ⟨hraw, hvalue⟩, hend⟩
    exact ⟨raw, rest, hread, hraw, hend, hvalue⟩
  · rintro ⟨raw, rest, hread, hraw, hend, hvalue⟩
    exact ⟨raw, rest, hread, ⟨hraw, hvalue⟩, hend⟩

/-- A value the parser reads is loaded exactly when no object inside it repeats a name, and
nothing but whitespace follows. Then the ordinary parser returns the same value. -/
theorem loadJson_strict (lib : Library) (data : Bytes) (check : String) :
    (∀ raw rest, lib.read data = .ok (raw, rest) →
      ((∃ value, loadJson lib data check = .ok value) ↔
        raw.NoRepeats ∧ rest.all Serde.isJsonWhitespace = true)) ∧
    (∀ value, loadJson lib data check = .ok value →
      Serde.fromSlice lib.read data = .ok value) ∧
    (∀ raw rest, lib.read data = .ok (raw, rest) →
      (∃ b ∈ rest, Serde.isJsonWhitespace b = false) →
      ∃ error, loadJson lib data check = .error error) := by
  have haccepts : ∀ raw rest, lib.read data = .ok (raw, rest) →
      ((∃ value, loadJson lib data check = .ok value) ↔
        raw.NoRepeats ∧ rest.all Serde.isJsonWhitespace = true) := by
    intro raw rest hread
    simp only [loadJson_eq_ok_iff, hread, Except.ok.injEq, Prod.mk.injEq]
    constructor
    · rintro ⟨value, _, _, ⟨rfl, rfl⟩, hraw, hend, -⟩
      exact ⟨hraw, hend⟩
    · rintro ⟨hraw, hend⟩
      exact ⟨_, raw, rest, ⟨rfl, rfl⟩, hraw, hend, rfl⟩
  refine ⟨haccepts, ?_, ?_⟩
  · -- What the strict loader accepts, the plain one reads to the same value.
    intro value hloads
    obtain ⟨raw, rest, hread, -, hend, rfl⟩ := loadJson_eq_ok_iff.mp hloads
    simp only [Serde.fromSlice, bind_eq_ok, exists_unit]
    exact ⟨(raw, rest), hread, atEnd_eq_ok.mpr hend, rfl⟩
  · rintro raw rest hread ⟨b, hb, hspace⟩
    cases hloads : loadJson lib data check with
    | error error => exact ⟨error, rfl⟩
    | ok value =>
        -- A byte that is no whitespace behind the value contradicts the end check.
        have hend := ((haccepts raw rest hread).mp ⟨value, hloads⟩).2
        rw [List.all_eq_true.mp hend b hb] at hspace
        cases hspace

end

/-- An object two levels down, in an array and an object, whose second name is `last`. -/
def nestedRaw (last : String) : Raw :=
  .array [.object [("a", .null), ("b", .object [("a", .bool true), (last, .null)])]]

/-- Its text. -/
def nestedJson (last : String) : String :=
  "[\x7b\"a\":null,\"b\":\x7b\"a\":true,\"" ++ last ++ "\":null\x7d\x7d]"

/-- A library whose parser knows the texts with the names `a` and `cc`. -/
def nestedLibrary : Library :=
  { fixtureLibrary with
    read := readTable [(nestedJson "a", nestedRaw "a"), (nestedJson "cc", nestedRaw "cc")] }

/-- The inner object may repeat a name of the outer one, and none of its own. -/
theorem loadJson_strict_nested :
    (∃ value, loadJson nestedLibrary (bytes (nestedJson "cc")) "test" = .ok value) ∧
    ¬ ∃ value, loadJson nestedLibrary (bytes (nestedJson "a")) "test" = .ok value := by
  have hread : ∀ last ∈ ["a", "cc"],
      nestedLibrary.read (bytes (nestedJson last)) = .ok (nestedRaw last, []) := by
    intro last hlast
    refine readTable_eq (by decide) ?_
    exact List.mem_map_of_mem (f := fun last => (nestedJson last, nestedRaw last)) hlast
  constructor
  · refine ((loadJson_strict nestedLibrary (bytes (nestedJson "cc")) "test").1 _ _
      (hread "cc" (by decide))).mpr ⟨?_, rfl⟩
    simp [nestedRaw, Raw.noRepeats_array, Raw.noRepeats_object, noRepeats_scalar]
  · intro h
    have hraw := (((loadJson_strict nestedLibrary (bytes (nestedJson "a")) "test").1 _ _
      (hread "a" (by decide))).mp h).1
    simp [nestedRaw, Raw.noRepeats_array, Raw.noRepeats_object] at hraw

end TrustedRouter.Proofs.Receipts
