import TrustedRouter.Proofs.Receipts.Events

/-!
# `TrustedRouter.Proofs.Receipts.Segments`: the segments of a stream and what they say

`next_sse_event` cuts a stream at LF LF and at CR LF CR LF, whichever ends first, and
`decode_sse_event` reads the lines of what it cut. `IsSegment` and `Decodes` say the same
without the scanner: a segment is a text that ends in a delimiter and has no shorter initial
part that does, and it says an event when its lines are one data line and at most one event
line. `frames_eq_iff` and `decodes_iff` relate the two.
-/

set_option autoImplicit false

namespace TrustedRouter.Proofs.Receipts

open Rust (Bytes)
open Rust.Str
open Rust.Result
open TrustedRouter.Receipts
open Framing (frames rest)
open EventSource (stripCr unlines pieces SameData)

/-! ## Segments -/

/-- A delimiter stands at the end. -/
def EndsEvent (text : Bytes) : Prop := lfLf <:+ text ∨ crlfCrlf <:+ text

/-- The bytes up to the delimiter that ends first. -/
structure IsSegment (segment : Bytes) : Prop where
  ends : EndsEvent segment
  /-- No shorter initial part ends in a delimiter. -/
  first : ∀ start, start <+: segment → EndsEvent start → start = segment

/-- A needle ends after the bytes before it and its own. -/
theorem suffix_take_iff {text needle : Bytes} {i : Nat} (h : i + needle.length ≤ text.length) :
    needle <:+ text.take (i + needle.length) ↔ needle <+: text.drop i := by
  rw [List.take_add, List.prefix_iff_eq_take]
  constructor
  · rintro ⟨before, heq⟩
    -- The part after `i` is as long as the needle, so it is the needle.
    exact (List.append_inj_right' heq (by rw [List.length_take, List.length_drop]; omega))
  · intro heq
    rw [← heq]
    exact List.suffix_append _ _

/-- A needle that is found ends behind the place where it is found. -/
theorem findSubslice_ends {text needle : Bytes} {i : Nat}
    (h : findSubslice text needle = some i) : needle <:+ text.take (i + needle.length) :=
  (suffix_take_iff (findSubslice_add_length_le h)).mpr (findSubslice_eq_some.mp h).2.1

/-- A needle that ends somewhere is found, and the first one does not end later. -/
theorem findSubslice_of_ends {text needle : Bytes} {stop : Nat} (hstop : stop ≤ text.length)
    (h : needle <:+ text.take stop) :
    ∃ i, findSubslice text needle = some i ∧ i + needle.length ≤ stop := by
  have hlength := h.length_le
  rw [List.length_take, Nat.min_eq_left hstop] at hlength
  obtain ⟨j, rfl⟩ := Nat.exists_eq_add_of_le' hlength
  have hat := (suffix_take_iff hstop).mp h
  cases hfound : findSubslice text needle with
  | none => exact absurd hat (findSubslice_eq_none.mp hfound j (by omega))
  | some i =>
      refine ⟨i, rfl, ?_⟩
      have hle : i ≤ j := by
        by_contra hlt
        exact (findSubslice_eq_some.mp hfound).2.2 j (by omega) hat
      omega

/-- `next_sse_event` takes the first segment: it ends in a delimiter, and no delimiter ends
earlier in it. -/
theorem isSegment_take {text : Bytes} {stop : Nat} (h : eventEnd text = some stop) :
    IsSegment (text.take stop) := by
  have hstop := eventEnd_le_length h
  have hbounds : (∀ i, findSubslice text lfLf = some i → stop ≤ i + 2) ∧
      (∀ j, findSubslice text crlfCrlf = some j → stop ≤ j + 4) := by
    rcases eventEnd_eq_some.mp h with ⟨hlf, htwo, hother⟩ | ⟨hcrlf, hfour, hother⟩
    · refine ⟨?_, hother⟩
      intro i hi
      rw [hlf, Option.some.injEq] at hi
      omega
    · refine ⟨hother, ?_⟩
      intro j hj
      rw [hcrlf, Option.some.injEq] at hj
      omega
  constructor
  · rcases eventEnd_eq_some.mp h with ⟨hlf, htwo, -⟩ | ⟨hcrlf, hfour, -⟩
    · have hends := findSubslice_ends hlf
      rw [show lfLf.length = 2 from rfl, Nat.sub_add_cancel htwo] at hends
      exact .inl hends
    · have hends := findSubslice_ends hcrlf
      rw [show crlfCrlf.length = 4 from rfl, Nat.sub_add_cancel hfour] at hends
      exact .inr hends
  · intro start hstart hends
    -- A shorter part that ends in a delimiter would have been the end that was found.
    have htake : start = text.take start.length :=
      List.prefix_iff_eq_take.mp (hstart.trans (List.take_prefix _ _))
    have hshort : start.length ≤ text.length :=
      (hstart.trans (List.take_prefix _ _)).length_le
    have hlate : stop ≤ start.length := by
      rw [EndsEvent, htake] at hends
      rcases hends with hends | hends
      · obtain ⟨i, hi, hle⟩ := findSubslice_of_ends hshort hends
        exact (hbounds.1 i hi).trans hle
      · obtain ⟨j, hj, hle⟩ := findSubslice_of_ends hshort hends
        exact (hbounds.2 j hj).trans hle
    apply hstart.eq_of_length_le
    rw [List.length_take]
    omega

/-- A segment is a text that ends where its first event does. -/
theorem isSegment_iff {segment : Bytes} :
    IsSegment segment ↔ eventEnd segment = some segment.length := by
  constructor
  · intro h
    -- The segment ends in one of the two delimiters, so that the search finds one of them.
    have hfound : ∃ stop, eventEnd segment = some stop := by
      have hwhole : ∀ {needle : Bytes}, needle <:+ segment →
          ∃ i, findSubslice segment needle = some i := by
        intro needle hends
        rw [← List.take_length (l := segment)] at hends
        obtain ⟨i, hi, -⟩ := findSubslice_of_ends (Nat.le_refl _) hends
        exact ⟨i, hi⟩
      unfold eventEnd
      rcases h.ends with hends | hends
      · obtain ⟨i, hi⟩ := hwhole hends
        rw [hi]
        cases findSubslice segment crlfCrlf <;> exact ⟨_, rfl⟩
      · obtain ⟨j, hj⟩ := hwhole hends
        rw [hj]
        cases findSubslice segment lfLf <;> exact ⟨_, rfl⟩
    obtain ⟨stop, hstop⟩ := hfound
    -- What the search finds first is a segment too, and no shorter part of a segment is one.
    have hsame := h.first _ (List.take_prefix stop segment) (isSegment_take hstop).ends
    have hlength := congrArg List.length hsame
    rw [List.length_take, Nat.min_eq_left (eventEnd_le_length hstop)] at hlength
    rw [hstop, hlength]
  · intro h
    have hsegment := isSegment_take h
    rwa [List.take_length] at hsegment

/-- The frames of a stream are segments: each is cut off at the end of the first event of what is
left. -/
theorem isSegment_of_mem_frames {wire segment : Bytes} (h : segment ∈ frames sseRule wire) :
    IsSegment segment := by
  induction wire using Framing.frames_induction sseRule with
  | stuck wire hnone =>
      rw [Framing.frames_of_none hnone] at h
      cases h
  | frame wire stop hstop ih =>
      rw [Framing.frames_of_some hstop, List.mem_cons] at h
      rcases h with rfl | h
      · exact isSegment_take hstop
      · exact ih h

/-- Cutting a stream at the delimiters that end first, with nothing left over. On the right there
is no algorithm: only one list of segments is possible for a stream. -/
theorem frames_eq_iff {wire : Bytes} {segments : List Bytes} :
    frames sseRule wire = segments ∧ rest sseRule wire = [] ↔
      segments.flatten = wire ∧ ∀ segment ∈ segments, IsSegment segment := by
  constructor
  · rintro ⟨rfl, hrest⟩
    have hflatten := Framing.flatten_frames_append_rest sseRule wire
    rw [hrest, List.append_nil] at hflatten
    exact ⟨hflatten, fun segment hsegment => isSegment_of_mem_frames hsegment⟩
  · rintro ⟨rfl, hsegments⟩
    exact Framing.frames_flatten sseRule fun segment hsegment =>
      isSegment_iff.mp (hsegments segment hsegment)

/-! ## The lines of a segment -/

/-- A stream of lines has these lines, and a blank one behind the last line feed. -/
theorem splitLines_unlines {lines : List Bytes} (h : ∀ line ∈ lines, 10 ∉ line) :
    splitLines (unlines lines) = lines ++ [[]] := by
  induction lines with
  | nil => rfl
  | cons line lines ih =>
      have hrest := ih fun other hother => h other (List.mem_cons_of_mem _ hother)
      rw [EventSource.unlines_cons, splitLines_append,
        splitLines_of_not_mem (h line List.mem_cons_self), hrest]
      rfl

/-- Lines are known from their text, when none of them has a line feed inside. -/
theorem unlines_injective {a b : List Bytes} (ha : ∀ line ∈ a, 10 ∉ line)
    (hb : ∀ line ∈ b, 10 ∉ line) (h : unlines a = unlines b) : a = b := by
  have hlines := congrArg splitLines h
  rw [splitLines_unlines ha, splitLines_unlines hb] at hlines
  exact List.append_cancel_right hlines

/-- A line with a field: a tag, then the value. One blank before the value and one carriage
return at the end of the line are left out. -/
def IsField (tag value line : Bytes) : Prop :=
  ∃ text, stripCr line = tag ++ text ∧ value = fieldValue text

/-- One data line and at most one event line, and the name and payload they give. -/
inductive Fields : List Bytes → Bytes × Bytes → Prop
  | unnamed {line payload : Bytes} (hdata : IsField (bytes "data:") payload line) :
      Fields [line] ([], payload)
  | nameFirst {eventLine dataLine name payload : Bytes}
      (hevent : IsField (bytes "event:") name eventLine)
      (hdata : IsField (bytes "data:") payload dataLine) :
      Fields [eventLine, dataLine] (name, payload)
  | dataFirst {dataLine eventLine name payload : Bytes}
      (hdata : IsField (bytes "data:") payload dataLine)
      (hevent : IsField (bytes "event:") name eventLine) :
      Fields [dataLine, eventLine] (name, payload)

/-- A segment and the event it says: lines with a line feed between them, then a delimiter. -/
def Decodes (segment : Bytes) (event : Bytes × Bytes) : Prop :=
  ∃ body lines, (segment = body ++ lfLf ∨ segment = body ++ crlfCrlf) ∧
    unlines lines = body ++ [10] ∧ (∀ line ∈ lines, 10 ∉ line) ∧ Fields lines event

/-- Stripping adds no byte, so that a line that had no line feed still has none. -/
theorem mem_of_mem_stripCr {line : Bytes} {byte : UInt8} (h : byte ∈ stripCr line) :
    byte ∈ line := by
  rw [stripCr] at h
  split at h
  · exact List.dropLast_subset _ h
  · exact h

/-- Dropping a blank adds no byte. -/
theorem mem_of_mem_fieldValue {value : Bytes} {byte : UInt8} (h : byte ∈ fieldValue value) :
    byte ∈ value := by
  rw [fieldValue_eq] at h
  split at h
  · exact List.mem_of_mem_tail h
  · exact h

/-- The value of a field is part of its line. -/
theorem IsField.subset {tag value line : Bytes} (h : IsField tag value line) : value ⊆ line := by
  obtain ⟨text, hline, rfl⟩ := h
  intro byte hbyte
  apply mem_of_mem_stripCr
  rw [hline]
  exact List.mem_append_right _ (mem_of_mem_fieldValue hbyte)

/-- A line is not a data line and an event line at once. -/
theorem not_isField_event {line payload name : Bytes}
    (hdata : IsField (bytes "data:") payload line) : ¬ IsField (bytes "event:") name line := by
  rintro ⟨text, hline, -⟩
  obtain ⟨other, hother, -⟩ := hdata
  have hheads := congrArg List.head? (hother.symm.trans hline)
  rw [List.head?_append, List.head?_append, show (bytes "data:").head? = some 100 by decide,
    show (bytes "event:").head? = some 101 by decide, Option.some_or, Option.some_or] at hheads
  exact absurd hheads (by decide)

/-- One line of `decode_sse_event`: a field that was not found before. A second field of the same
name is an error, and so is any other line. -/
theorem decodeLine_iff {name payload : Option Bytes} {next : Option Bytes × Option Bytes}
    {line : Bytes} :
    decodeLine (name, payload) line = .ok next ↔
      (∃ value, IsField (bytes "data:") value line ∧ payload = none ∧ next = (name, some value)) ∨
      (∃ value, IsField (bytes "event:") value line ∧ name = none ∧
        next = (some value, payload)) := by
  simp only [decodeLine, stripSuffix_cr]
  cases hdata : stripPrefix (stripCr line) (bytes "data:") with
  | some text =>
      rw [stripPrefix_eq_some] at hdata
      have hfield : IsField (bytes "data:") (fieldValue text) line := ⟨text, hdata, rfl⟩
      simp only [bind_eq_ok, exists_unit, ensure_eq_ok, Option.isNone_iff_eq_none]
      constructor
      · rintro ⟨hnone, hnext⟩
        cases hnext
        exact .inl ⟨_, hfield, hnone, rfl⟩
      · rintro (⟨value, ⟨other, hother, rfl⟩, hnone, rfl⟩ | ⟨value, hevent, -⟩)
        · rw [hdata, List.append_cancel_left_eq] at hother
          rw [hother]
          exact ⟨hnone, rfl⟩
        · -- A data line is no event line, so the second case of the right side is empty here.
          exact absurd hevent (not_isField_event hfield)
  | none =>
      -- The line is no data line, and the event tag is looked for next.
      have hnot : ∀ value, ¬ IsField (bytes "data:") value line := by
        rintro value ⟨text, hline, -⟩
        rw [stripPrefix_eq_some.mpr hline] at hdata
        cases hdata
      simp only [hnot, false_and, exists_false, false_or]
      cases hevent : stripPrefix (stripCr line) (bytes "event:") with
      | some text =>
          rw [stripPrefix_eq_some] at hevent
          simp only [bind_eq_ok, exists_unit, ensure_eq_ok, Option.isNone_iff_eq_none]
          constructor
          · rintro ⟨hnone, hnext⟩
            cases hnext
            exact ⟨_, ⟨text, hevent, rfl⟩, hnone, rfl⟩
          · rintro ⟨value, ⟨other, hother, rfl⟩, hnone, rfl⟩
            rw [hevent, List.append_cancel_left_eq] at hother
            rw [hother]
            exact ⟨hnone, rfl⟩
      | none =>
          -- Neither tag: the line is refused.
          refine iff_of_false ?_ ?_
          · intro h
            cases h
          · rintro ⟨value, ⟨text, hline, -⟩, -⟩
            rw [stripPrefix_eq_some.mpr hline] at hevent
            cases hevent

/-- Both fields were found: there is no further line. -/
theorem foldlM_decodeLine_full {lines : List Bytes} {name payload : Bytes}
    {next : Option Bytes × Option Bytes} :
    lines.foldlM decodeLine (some name, some payload) = .ok next ↔
      lines = [] ∧ next = (some name, some payload) := by
  cases lines with
  | nil =>
      rw [List.foldlM_nil]
      exact ⟨fun h => by cases h; exact ⟨rfl, rfl⟩, fun h => by rw [h.2]; rfl⟩
  | cons line lines =>
      rw [List.foldlM_cons, bind_eq_ok]
      refine iff_of_false ?_ (by simp)
      rintro ⟨between, hline, -⟩
      rcases decodeLine_iff.mp hline with ⟨_, _, hnone, -⟩ | ⟨_, _, hnone, -⟩
      · cases hnone
      · cases hnone

/-- The lines of `decode_sse_event`: one data line, at most one event line, nothing else. -/
theorem foldlM_decodeLine_iff {lines : List Bytes} {event : Bytes × Bytes} :
    (∃ name, lines.foldlM decodeLine (none, none) = .ok (name, some event.2) ∧
      event.1 = name.getD []) ↔ Fields lines event := by
  obtain ⟨eventName, payload⟩ := event
  constructor
  · rintro ⟨name, hfold, rfl⟩
    cases lines with
    | nil => cases hfold
    | cons line lines =>
        rw [List.foldlM_cons, bind_eq_ok] at hfold
        obtain ⟨between, hline, hfold⟩ := hfold
        obtain ⟨value, hfield, -, rfl⟩ | ⟨value, hfield, -, rfl⟩ := decodeLine_iff.mp hline
        · -- The data line came first: an event line may follow.
          cases lines with
          | nil =>
              cases hfold
              exact .unnamed hfield
          | cons other lines =>
              rw [List.foldlM_cons, bind_eq_ok] at hfold
              obtain ⟨last, hother, hfold⟩ := hfold
              obtain ⟨_, _, hnone, -⟩ | ⟨found, hevent, -, rfl⟩ := decodeLine_iff.mp hother
              · cases hnone
              · obtain ⟨rfl, hnext⟩ := foldlM_decodeLine_full.mp hfold
                cases hnext
                exact .dataFirst hfield hevent
        · -- The event line came first: a data line must follow.
          cases lines with
          | nil => cases hfold
          | cons other lines =>
              rw [List.foldlM_cons, bind_eq_ok] at hfold
              obtain ⟨last, hother, hfold⟩ := hfold
              obtain ⟨found, hdata, -, rfl⟩ | ⟨_, _, hnone, -⟩ := decodeLine_iff.mp hother
              · obtain ⟨rfl, hnext⟩ := foldlM_decodeLine_full.mp hfold
                cases hnext
                exact .nameFirst hfield hdata
              · cases hnone
  · intro h
    cases h with
    | @unnamed line _ hdata =>
        refine ⟨none, ?_, rfl⟩
        rw [List.foldlM_cons, decodeLine_iff.mpr (.inl ⟨payload, hdata, rfl, rfl⟩)]
        rfl
    | @nameFirst eventLine dataLine _ _ hevent hdata =>
        refine ⟨some eventName, ?_, rfl⟩
        rw [List.foldlM_cons, decodeLine_iff.mpr (.inr ⟨eventName, hevent, rfl, rfl⟩)]
        show [dataLine].foldlM decodeLine (some eventName, none) = _
        rw [List.foldlM_cons, decodeLine_iff.mpr (.inl ⟨payload, hdata, rfl, rfl⟩)]
        rfl
    | @dataFirst dataLine eventLine _ _ hdata hevent =>
        refine ⟨some eventName, ?_, rfl⟩
        rw [List.foldlM_cons, decodeLine_iff.mpr (.inl ⟨payload, hdata, rfl, rfl⟩)]
        show [eventLine].foldlM decodeLine (none, some payload) = _
        rw [List.foldlM_cons, decodeLine_iff.mpr (.inr ⟨eventName, hevent, rfl, rfl⟩)]
        rfl

/-- The lines between the line feeds of a text: they give the text back, and none of them has a
line feed. -/
theorem splitLines_eq_iff {text : Bytes} {lines : List Bytes} :
    splitLines text = lines ↔ unlines lines = text ++ [10] ∧ ∀ line ∈ lines, 10 ∉ line := by
  constructor
  · rintro rfl
    exact ⟨unlines_splitLines text, fun _ hline => not_mem_of_mem_splitLines hline⟩
  · rintro ⟨hunlines, hlines⟩
    refine unlines_injective (fun _ hline => not_mem_of_mem_splitLines hline) hlines ?_
    rw [unlines_splitLines, hunlines]

/-- The event `decode_sse_event` returns for a name and a payload. -/
def eventFor (event : Bytes × Bytes) : SseEvent where
  name := event.1
  payload := event.2
  done := event.2 == bytes "[DONE]"

/-- What is before the delimiter of a segment. -/
theorem stripDelimiter_eq_some {segment body : Bytes} :
    (stripSuffix segment crlfCrlf).or (stripSuffix segment lfLf) = some body ↔
      segment = body ++ lfLf ∨ segment = body ++ crlfCrlf := by
  rw [Option.or_eq_some_iff, stripSuffix_eq_some, stripSuffix_eq_some, or_comm]
  constructor
  · rintro (⟨-, h⟩ | h)
    · exact .inl h
    · exact .inr h
  · rintro (h | h)
    · refine .inl ⟨?_, h⟩
      -- A text that ends in two line feeds does not end in CR LF CR LF.
      cases hcrlf : stripSuffix segment crlfCrlf with
      | none => rfl
      | some other =>
          rw [stripSuffix_eq_some, h] at hcrlf
          have hends := congrArg (fun text : Bytes => text.reverse.take 2) hcrlf
          rw [List.reverse_append, List.reverse_append] at hends
          have hlast : ([10, 10] : Bytes) = [10, 13] := hends
          exact absurd hlast (by decide)
    · exact .inr h

/-- `decode_sse_event` reads what a segment says. -/
theorem decodes_iff {segment : Bytes} {event : Bytes × Bytes} :
    decodeSseEvent segment = .ok (eventFor event) ↔ Decodes segment event := by
  simp only [decodeSseEvent, bind_eq_ok, okOr_eq_ok, stripDelimiter_eq_some]
  constructor
  · rintro ⟨body, hcut, ⟨name, found⟩, hfold, payload, hpayload, hevent⟩
    cases hpayload
    have hname : name.getD [] = event.1 :=
      congrArg (fun r => (r.toOption.map SseEvent.name).getD []) hevent
    have hvalue : payload = event.2 :=
      congrArg (fun r => (r.toOption.map SseEvent.payload).getD []) hevent
    have hlines := splitLines_eq_iff.mp (rfl : splitLines body = _)
    refine ⟨body, splitLines body, hcut, hlines.1, hlines.2,
      foldlM_decodeLine_iff.mp ⟨name, ?_, ?_⟩⟩
    · rw [hfold, hvalue]
    · exact hname.symm
  · rintro ⟨body, lines, hcut, hunlines, hlines, hfields⟩
    obtain ⟨name, hfold, hname⟩ := foldlM_decodeLine_iff.mpr hfields
    rw [← splitLines_eq_iff.mpr ⟨hunlines, hlines⟩] at hfold
    refine ⟨body, hcut, (name, some event.2), hfold, event.2, rfl, ?_⟩
    rw [eventFor, hname]
    rfl

/-- Every event it returns is that of a name and a payload, and its `done` flag is read off the
payload. -/
theorem decodes_of_decodeSseEvent {segment : Bytes} {event : SseEvent}
    (h : decodeSseEvent segment = .ok event) :
    event = eventFor (event.name, event.payload) ∧
      Decodes segment (event.name, event.payload) := by
  have hevent : event = eventFor (event.name, event.payload) := by
    simp only [decodeSseEvent, bind_eq_ok, okOr_eq_ok] at h
    obtain ⟨_, -, _, -, _, -, hevent⟩ := h
    cases hevent
    rfl
  refine ⟨hevent, decodes_iff.mp ?_⟩
  rw [← hevent]
  exact h

/-- A name and a payload each stand on one line, since both are parts of a line of the segment. -/
theorem Decodes.no_lf {segment : Bytes} {event : Bytes × Bytes} (h : Decodes segment event) :
    10 ∉ event.1 ∧ 10 ∉ event.2 := by
  obtain ⟨body, lines, -, -, hlines, hfields⟩ := h
  have hvalue : ∀ {tag value line : Bytes}, IsField tag value line → line ∈ lines →
      10 ∉ value := fun hfield hline hmem => hlines _ hline (hfield.subset hmem)
  cases hfields with
  | unnamed hdata => exact ⟨List.not_mem_nil, hvalue hdata (.head _)⟩
  | nameFirst hevent hdata => exact ⟨hvalue hevent (.head _), hvalue hdata (.tail _ (.head _))⟩
  | dataFirst hdata hevent => exact ⟨hvalue hevent (.tail _ (.head _)), hvalue hdata (.head _)⟩

/-! ## A segment of an unnamed event, read by the consumer

The consumer cuts lines at lone carriage returns too. A line that names no event has room for none,
so whatever the consumer reads from such a segment is in its payload. -/

/-- Two lines of one field with the same value, that is, with or without the blank behind the colon.
-/
theorem sameData_field {name : Bytes} (hascii : isAscii name = true) (hcolon : 58 ∉ name)
    {a b : Bytes} (h : fieldValue a = fieldValue b) :
    SameData [name ++ 58 :: a] [name ++ 58 :: b] := by
  have hne : ∀ value : Bytes, name ++ 58 :: value ≠ [] := fun value =>
    List.append_ne_nil_of_right_ne_nil _ (List.cons_ne_nil _ _)
  refine SameData.field (hne a) (hne b) ?_ ?_
  · have htext := (isText_field hascii a).trans (h ▸ (isText_field hascii b).symm)
    exact htext
  · intro builder
    rw [EventSource.data_add, EventSource.data_add, EventSource.fieldOf_append hcolon,
      EventSource.fieldOf_append hcolon, ← fieldValue_eq, ← fieldValue_eq, h]

/-- The lines of a data line, whether a blank stands before its value or not. Where the value has
lone carriage returns the consumer sees several lines, the same ones on both sides. -/
theorem IsField.sameData {payload line : Bytes} (h : IsField (bytes "data:") payload line) :
    SameData (pieces line) ((bytes "data: " ++ payload).splitOn 13) := by
  have hcolon : bytes "data:" = bytes "data" ++ [58] := by decide
  have hblank : bytes "data: " = bytes "data" ++ [58, 32] := by decide
  have hno : 13 ∉ bytes "data:" ∧ 13 ∉ bytes "data: " := by decide
  obtain ⟨text, hline, rfl⟩ := h
  rw [pieces, hline, fieldValue_eq]
  split
  · rename_i hhead
    obtain ⟨rest, rfl⟩ := List.head?_eq_some_iff.mp hhead
    have hsame : bytes "data:" ++ 32 :: rest = bytes "data: " ++ rest := by
      rw [hcolon, hblank, List.append_assoc, List.append_assoc]
      rfl
    rw [hsame]
    exact SameData.refl _
  · rename_i hhead
    rw [EventSource.splitOn_append hno.1, EventSource.splitOn_append hno.2]
    obtain ⟨first, others, hsplit⟩ := List.exists_cons_of_ne_nil (List.splitOn_ne_nil 13 text)
    rw [hsplit, List.modifyHead_cons, List.modifyHead_cons]
    -- Only the first of the lines has the name of the field.
    have hfirst : fieldValue first = fieldValue (32 :: first) := by
      have hkeep : first.head? ≠ some 32 := by
        rcases EventSource.head_of_splitOn hsplit with rfl | hsame
        · decide
        · rwa [hsame]
      rw [fieldValue_eq, fieldValue_eq, if_neg hkeep]
      rfl
    have hascii : isAscii (bytes "data") = true := by decide
    have hlines := (sameData_field hascii (by decide) hfirst).append (SameData.refl others)
    rw [hcolon, hblank, List.append_assoc, List.append_assoc]
    exact hlines

/-- A line that names no event shows nothing. -/
theorem IsField.sameData_nil {line : Bytes} (h : IsField (bytes "event:") [] line) :
    SameData (pieces line) [] := by
  obtain ⟨text, hline, hvalue⟩ := h
  have htext : text = [] ∨ text = [32] := by
    rw [fieldValue_eq] at hvalue
    split at hvalue
    · rename_i hhead
      obtain ⟨rest, rfl⟩ := List.head?_eq_some_iff.mp hhead
      exact .inr (congrArg (List.cons 32) hvalue.symm)
    · exact .inl hvalue.symm
  rw [pieces, hline]
  rcases htext with rfl | rfl
  · exact SameData.skip (by decide) (by decide) (by decide)
  · exact SameData.skip (by decide) (by decide) (by decide)

/-- The lines that carry a payload to the consumer, up to the blank one that dispatches it. -/
def payloadLines (payload : Bytes) : List Bytes := (bytes "data: " ++ payload).splitOn 13 ++ [[]]

/-- The fields of an unnamed event show its payload. -/
theorem Fields.sameData {lines : List Bytes} {payload : Bytes} (h : Fields lines ([], payload)) :
    SameData (lines.flatMap pieces) ((bytes "data: " ++ payload).splitOn 13) := by
  cases h with
  | unnamed hdata =>
      rw [List.flatMap_singleton]
      exact hdata.sameData
  | nameFirst hevent hdata =>
      rw [List.flatMap_cons, List.flatMap_singleton]
      exact hevent.sameData_nil.append hdata.sameData
  | dataFirst hdata hevent =>
      rw [List.flatMap_cons, List.flatMap_singleton]
      have hlines := hdata.sameData.append hevent.sameData_nil
      rwa [List.append_nil] at hlines

/-- A segment of an unnamed event shows its payload, and nothing else, with either delimiter. -/
theorem Decodes.sameData {segment payload : Bytes} (h : Decodes segment ([], payload)) :
    SameData (consumerLines segment) (payloadLines payload) := by
  obtain ⟨body, lines, hcut, hunlines, hlf, hfields⟩ := h
  have hlines : splitLines body = lines := splitLines_eq_iff.mpr ⟨hunlines, hlf⟩
  rw [consumerLines, payloadLines]
  refine SameData.trans ?_ (hfields.sameData.append (SameData.refl [[]]))
  rcases hcut with rfl | rfl
  · rw [segmentsOf_lfLf, hlines, List.flatMap_append]
    exact SameData.refl _
  · obtain ⟨init, last, hbody, hsegments⟩ := segmentsOf_crlfCrlf body
    rw [hsegments, ← hlines, hbody, List.flatMap_append, List.flatMap_append, List.append_assoc,
      List.flatMap_singleton, List.flatMap_cons]
    refine SameData.append_left ?_ _
    -- A carriage return at the end of the last line is a lone one here, and leaves a blank line.
    rcases EventSource.pieces_concat_cr last with hlast | hlast
    · rw [hlast]
      exact SameData.refl _
    · rw [hlast, List.append_assoc]
      exact SameData.blank_blank.append_left _

/-- Segments of unnamed events show their payloads, segment by segment. -/
theorem sameData_segments {segments : List Bytes} {events : List (Bytes × Bytes)}
    (h : List.Forall₂ Decodes segments events) (hunnamed : ∀ event ∈ events, event.1 = []) :
    SameData (segments.flatMap consumerLines)
      (events.flatMap fun event => payloadLines event.2) := by
  induction h with
  | nil => exact SameData.refl []
  | @cons segment event segments events hdecodes _ ih =>
      obtain ⟨hname, hrest⟩ := List.forall_mem_cons.mp hunnamed
      have hevent : event = ([], event.2) := Prod.ext hname rfl
      rw [hevent] at hdecodes
      rw [List.flatMap_cons, List.flatMap_cons]
      exact hdecodes.sameData.append (ih hrest)

end TrustedRouter.Proofs.Receipts
