import TrustedRouter.Proofs.Receipts.Framing
import TrustedRouter.Sse.Wire

/-!
# `TrustedRouter.Proofs.Receipts.Events`: one stream, two decoders

A captured stream is decoded twice. The verifier cuts it at blank lines and reads each event
with `decode_sse_event`; the consumer of the stream reads it with the decoder of `parse_sse`,
which knows a third line ending, the lone carriage return. `items_flatten` says that the consumer
reads an accepted stream frame by frame. Where every carriage return stands before a line feed
the two agree on a frame: `itemsFrom_frame` says that a frame the verifier accepts is one event
to the consumer, with the verifier's payload as its data.
-/

set_option autoImplicit false

namespace TrustedRouter.Proofs.Receipts

open Rust (Bytes)
open Rust.Str
open Rust.Result
open TrustedRouter.Receipts
open Framing (frames rest)
open EventSource (Builder stripCr isLineByte crBeforeLf unlines itemsFrom)

/-! ## Lines -/

/-- There is always a line, as for `slice::split`. -/
theorem splitLines_ne_nil (stream : Bytes) : splitLines stream ≠ [] := by
  cases stream with
  | nil => exact List.cons_ne_nil _ _
  | cons byte rest =>
      rw [splitLines]
      split
      · exact List.cons_ne_nil _ _
      · split <;> exact List.cons_ne_nil _ _

/-- A byte that is no line feed belongs to the first line. -/
theorem splitLines_cons_of_ne {byte : UInt8} (h : byte ≠ 10) {rest line : Bytes}
    {lines : List Bytes} (hrest : splitLines rest = line :: lines) :
    splitLines (byte :: rest) = (byte :: line) :: lines := by
  have hfalse : ¬ (byte == 10) = true := by rwa [beq_iff_eq]
  rw [splitLines, hrest]
  exact if_neg hfalse

/-- A line feed ends a line, here a blank one. -/
theorem splitLines_lf (rest : Bytes) : splitLines (10 :: rest) = [] :: splitLines rest := by
  obtain ⟨line, lines, hrest⟩ := List.exists_cons_of_ne_nil (splitLines_ne_nil rest)
  rw [splitLines, hrest]
  rfl

/-- Without a line feed there is one line. -/
theorem splitLines_of_not_mem {line : Bytes} (h : 10 ∉ line) : splitLines line = [line] := by
  induction line with
  | nil => rfl
  | cons byte line ih =>
      rw [List.mem_cons, not_or] at h
      exact splitLines_cons_of_ne (fun heq => h.1 heq.symm) (ih h.2)

/-- A line feed separates the lines before it from those after it. -/
theorem splitLines_append (a b : Bytes) :
    splitLines (a ++ 10 :: b) = splitLines a ++ splitLines b := by
  induction a with
  | nil => rw [List.nil_append, splitLines_lf]; rfl
  | cons byte a ih =>
      rw [List.cons_append]
      by_cases hbyte : byte = 10
      · rw [hbyte, splitLines_lf, splitLines_lf, ih, List.cons_append]
      · obtain ⟨line, lines, ha⟩ := List.exists_cons_of_ne_nil (splitLines_ne_nil a)
        rw [ha, List.cons_append] at ih
        rw [splitLines_cons_of_ne hbyte ih, splitLines_cons_of_ne hbyte ha, List.cons_append]

/-- Bytes at the end of a stream extend its last line, and leave the others. -/
theorem splitLines_concat {byte : UInt8} (h : byte ≠ 10) (a : Bytes) :
    ∃ init last, splitLines a = init ++ [last] ∧
      splitLines (a ++ [byte]) = init ++ [last ++ [byte]] := by
  induction a with
  | nil => exact ⟨[], [], rfl, splitLines_cons_of_ne h rfl⟩
  | cons first a ih =>
      obtain ⟨init, last, ha, hab⟩ := ih
      by_cases hfirst : first = 10
      · refine ⟨[] :: init, last, ?_, ?_⟩
        · rw [hfirst, splitLines_lf, ha]; rfl
        · rw [hfirst, List.cons_append, splitLines_lf, hab]; rfl
      · cases init with
        | nil =>
            exact ⟨[], first :: last, splitLines_cons_of_ne hfirst ha,
              splitLines_cons_of_ne hfirst hab⟩
        | cons line init =>
            exact ⟨(first :: line) :: init, last, splitLines_cons_of_ne hfirst ha,
              splitLines_cons_of_ne hfirst hab⟩

/-- The lines of a text, each ended by a line feed, are the text and one line feed more. -/
theorem unlines_splitLines (stream : Bytes) : unlines (splitLines stream) = stream ++ [10] := by
  induction stream with
  | nil => rfl
  | cons byte rest ih =>
      by_cases hbyte : byte = 10
      · rw [hbyte, splitLines_lf, EventSource.unlines_cons, ih]; rfl
      · obtain ⟨line, lines, hrest⟩ := List.exists_cons_of_ne_nil (splitLines_ne_nil rest)
        rw [hrest, EventSource.unlines_cons] at ih
        rw [splitLines_cons_of_ne hbyte hrest, EventSource.unlines_cons, List.cons_append, ih,
          List.cons_append]

/-- A line has no line feed. -/
theorem not_mem_of_mem_splitLines {stream line : Bytes} (h : line ∈ splitLines stream) :
    10 ∉ line := by
  induction stream generalizing line with
  | nil =>
      rw [List.mem_singleton.mp h]
      exact List.not_mem_nil
  | cons byte rest ih =>
      by_cases hbyte : byte = 10
      · rw [hbyte, splitLines_lf, List.mem_cons] at h
        rcases h with rfl | h
        · exact List.not_mem_nil
        · exact ih h
      · obtain ⟨first, lines, hrest⟩ := List.exists_cons_of_ne_nil (splitLines_ne_nil rest)
        rw [splitLines_cons_of_ne hbyte hrest, List.mem_cons] at h
        rcases h with rfl | h
        · rw [List.mem_cons, not_or]
          exact ⟨fun heq => hbyte heq.symm, ih (hrest ▸ List.mem_cons_self)⟩
        · exact ih (hrest ▸ List.mem_cons_of_mem _ h)

/-- What is left of bytes without their end. -/
theorem stripSuffix_eq_some {line stop text : Bytes} :
    stripSuffix line stop = some text ↔ line = text ++ stop := by
  rw [stripSuffix]
  constructor
  · intro h
    split at h
    · rename_i hsuffix
      obtain ⟨before, rfl⟩ := List.isSuffixOf_iff_suffix.mp hsuffix
      cases h
      simp
    · cases h
  · rintro rfl
    rw [if_pos (List.isSuffixOf_iff_suffix.mpr (List.suffix_append _ _))]
    simp

/-- What is left of bytes without their start. -/
theorem stripPrefix_eq_some {line start text : Bytes} :
    stripPrefix line start = some text ↔ line = start ++ text := by
  rw [stripPrefix]
  constructor
  · intro h
    split at h
    · rename_i hstart
      obtain ⟨after, rfl⟩ := List.isPrefixOf_iff_prefix.mp hstart
      cases h
      simp
    · cases h
  · rintro rfl
    rw [if_pos (List.isPrefixOf_iff_prefix.mpr (List.prefix_append _ _))]
    simp

/-- `strip_suffix` of a carriage return. -/
theorem stripSuffix_cr (line : Bytes) : (stripSuffix line [13]).getD line = stripCr line := by
  rw [stripCr]
  split
  · rename_i hlast
    obtain ⟨text, rfl⟩ := List.getLast?_eq_some_iff.mp hlast
    rw [stripSuffix_eq_some.mpr rfl, List.dropLast_concat, Option.getD_some]
  · rename_i hlast
    rw [stripSuffix, if_neg, Option.getD_none]
    rw [List.isSuffixOf_iff_suffix]
    rintro ⟨text, rfl⟩
    exact hlast List.getLast?_concat

/-! ## One frame -/

/-- The segments of a frame between its line feeds. -/
def segmentsOf (raw : Bytes) : List Bytes := (splitLines raw).dropLast

/-- Bytes that end in a line feed have no segment behind it. -/
theorem segmentsOf_concat (text : Bytes) : segmentsOf (text ++ [10]) = splitLines text := by
  rw [segmentsOf, splitLines_append]
  exact List.dropLast_concat

/-- Two line feeds leave the lines of the body and a blank one. -/
theorem segmentsOf_lfLf (body : Bytes) : segmentsOf (body ++ lfLf) = splitLines body ++ [[]] := by
  have hraw : body ++ lfLf = body ++ 10 :: [] ++ [10] := by simp [lfLf]
  rw [hraw, segmentsOf_concat, splitLines_append]
  rfl

/-- The carriage return of the first CR LF belongs to the last line of the body, and that of the
second is a line of its own. -/
theorem segmentsOf_crlfCrlf (body : Bytes) :
    ∃ init last, splitLines body = init ++ [last] ∧
      segmentsOf (body ++ crlfCrlf) = init ++ [last ++ [13], [13]] := by
  have hcr : (13 : UInt8) ≠ 10 := by decide
  obtain ⟨init, last, hlines, hlast⟩ := splitLines_concat hcr body
  refine ⟨init, last, hlines, ?_⟩
  have hraw : body ++ crlfCrlf = (body ++ [13]) ++ 10 :: [13] ++ [10] := by
    simp [crlfCrlf]
  rw [hraw, segmentsOf_concat, splitLines_append, hlast, List.append_assoc]
  rfl

/-- Strip the carriage return of a line first, or let `decode_sse_event` do it: either way one is
stripped. A second one would be taken off in the first order only, which `h` excludes. -/
theorem decodeLine_stripCr {line : Bytes} (h : (stripCr line).all isLineByte = true)
    (found : Option Bytes × Option Bytes) :
    decodeLine found (stripCr line) = decodeLine found line := by
  simp only [decodeLine, stripSuffix_cr, EventSource.stripCr_eq_self h]

/-- The same for all lines of a frame, by induction on them. -/
theorem foldlM_decodeLine_stripCr {lines : List Bytes}
    (h : ∀ line ∈ lines, (stripCr line).all isLineByte = true)
    (found : Option Bytes × Option Bytes) :
    (lines.map stripCr).foldlM decodeLine found = lines.foldlM decodeLine found := by
  induction lines generalizing found with
  | nil => rfl
  | cons line lines ih =>
      rw [List.map_cons, List.foldlM_cons, List.foldlM_cons,
        decodeLine_stripCr (h line List.mem_cons_self)]
      congr 1
      funext next
      exact ih (fun other hother => h other (List.mem_cons_of_mem _ hother)) next

/-- What `decode_sse_event` says of a frame: its last segment is blank, and the fields in the
segments before it are the name and the payload. Both delimiters are covered, so that what follows
does not have to tell them apart. -/
theorem decodeSseEvent_segments {raw : Bytes} {event : SseEvent}
    (h : decodeSseEvent raw = .ok event) :
    ∃ segments last name, segmentsOf raw = segments ++ [last] ∧ stripCr last = [] ∧
      unlines (segmentsOf raw) = raw ∧ event.name = name.getD [] ∧
      event.done = (event.payload == bytes "[DONE]") ∧
      ((∀ segment ∈ segments, (stripCr segment).all isLineByte = true) →
        (segments.map stripCr).foldlM decodeLine (none, none) =
          .ok (name, some event.payload)) := by
  simp only [decodeSseEvent, bind_eq_ok, okOr_eq_ok] at h
  obtain ⟨body, hbody, ⟨name, payload⟩, hfold, value, hpayload, hevent⟩ := h
  cases hevent
  cases hpayload
  rw [Option.or_eq_some_iff, stripSuffix_eq_some, stripSuffix_eq_some] at hbody
  rcases hbody with rfl | ⟨-, rfl⟩
  · obtain ⟨init, last, hlines, hsegments⟩ := segmentsOf_crlfCrlf body
    have hsplit : init ++ [last ++ [13], [13]] = init ++ [last ++ [13]] ++ [[13]] :=
      (List.append_assoc init [last ++ [13]] [[13]]).symm
    have hunlines : unlines (init ++ [last]) = body ++ [10] := hlines ▸ unlines_splitLines body
    refine ⟨_, [13], name, hsegments.trans hsplit, EventSource.stripCr_concat [], ?_, rfl, rfl, ?_⟩
    · rw [EventSource.unlines_append] at hunlines
      have hbody : unlines init ++ last = body := by
        have hconcat : unlines init ++ last ++ [10] = body ++ [10] := by
          rw [← hunlines, List.append_assoc, EventSource.unlines_cons]
          rfl
        exact List.append_cancel_right hconcat
      rw [hsegments, EventSource.unlines_append, ← hbody]
      simp [unlines, crlfCrlf]
    · intro hall
      rw [List.map_append, List.foldlM_append]
      have hinit := foldlM_decodeLine_stripCr
        (fun line hline => hall line (List.mem_append_left _ hline)) (none, none)
      rw [hinit, List.map_singleton, EventSource.stripCr_concat, ← List.foldlM_append, ← hlines]
      exact hfold
  · -- With LF LF the body ends where its last line does.
    have hsegments := segmentsOf_lfLf body
    refine ⟨_, [], name, hsegments, rfl, ?_, rfl, rfl, ?_⟩
    · rw [hsegments, EventSource.unlines_append, unlines_splitLines]
      simp [unlines, lfLf]
    · intro hall
      rw [foldlM_decodeLine_stripCr hall]
      exact hfold

/-! ## A frame of one data line -/

/-- The frame that carries a payload and nothing else. -/
def dataFrame (payload : Bytes) : Bytes := bytes "data: " ++ payload ++ lfLf

/-- The first line feed of such a frame is the one that ends it, so the frame ends with it. -/
theorem eventEnd_line {line : Bytes} (h : 10 ∉ line) :
    eventEnd (line ++ lfLf) = some (line ++ lfLf).length := by
  have hlength : (line ++ lfLf).length = line.length + 2 := List.length_append
  -- A delimiter at an earlier place would have a line feed inside the line.
  have hlate : ∀ j k, (line ++ lfLf)[j + k]? = some 10 → line.length ≤ j + k := by
    intro j k hat
    by_contra hlt
    rw [List.getElem?_append_left (by omega)] at hat
    exact h (List.mem_of_getElem? hat)
  have hinitial : ∀ {needle : Bytes} {j k : Nat}, needle <+: (line ++ lfLf).drop j →
      needle[k]? = some 10 → (line ++ lfLf)[j + k]? = some 10 := by
    rintro needle j k ⟨after, hafter⟩ hat
    have hlt : k < needle.length := (List.getElem?_eq_some_iff.mp hat).1
    rw [← List.getElem?_drop, ← hafter, List.getElem?_append_left hlt, hat]
  refine eventEnd_eq_some.mpr (.inl ⟨?_, by omega, ?_⟩)
  · refine findSubslice_eq_some.mpr ⟨by omega, ?_, ?_⟩
    · rw [hlength, Nat.add_sub_cancel, List.drop_left]
    · intro j hj hat
      have := hlate j 0 (hinitial hat rfl)
      omega
  · intro j hj
    obtain ⟨-, hat, -⟩ := findSubslice_eq_some.mp hj
    have := hlate j 1 (hinitial hat rfl)
    omega

/-- A data line has a line feed only if its payload does. -/
theorem dataLine_no_lf {payload : Bytes} (h : 10 ∉ payload) : 10 ∉ bytes "data: " ++ payload := by
  rw [List.mem_append, not_or]
  exact ⟨by decide, h⟩

/-- `decode_sse_event` reads the payload of a frame with one data line. -/
theorem decodeSseEvent_dataFrame {payload : Bytes} (hlf : 10 ∉ payload)
    (hcr : payload.getLast? ≠ some 13) :
    decodeSseEvent (dataFrame payload) =
      .ok { name := [], payload, done := payload == bytes "[DONE]" } := by
  have hlines : splitLines (bytes "data: " ++ payload) = [bytes "data: " ++ payload] :=
    splitLines_of_not_mem (dataLine_no_lf hlf)
  -- The frame ends in two line feeds, and the byte before the last one is no carriage return.
  have hstrip : stripSuffix (dataFrame payload) crlfCrlf = none := by
    rw [Option.eq_none_iff_forall_ne_some]
    intro text htext
    have hreverse := congrArg List.reverse (stripSuffix_eq_some.mp htext)
    simp [dataFrame, lfLf, crlfCrlf] at hreverse
  have hlast : ¬ (bytes "data: " ++ payload).getLast? = some 13 := by
    rw [List.getLast?_append]
    cases hpayload : payload.getLast? with
    | none => decide
    | some byte => rwa [Option.some_or, ← hpayload]
  have hstart : bytes "data: " ++ payload = bytes "data:" ++ 32 :: payload := by
    have hblank : bytes "data: " = bytes "data:" ++ [32] := by decide
    rw [hblank, List.append_assoc, List.singleton_append]
  simp only [decodeSseEvent, bind_eq_ok, okOr_eq_ok]
  refine ⟨bytes "data: " ++ payload, ?_, (none, some payload), ?_, payload, rfl, rfl⟩
  · rw [hstrip, Option.none_or, stripSuffix_eq_some]
    rfl
  · rw [hlines, List.foldlM_cons, bind_eq_ok]
    refine ⟨(none, some payload), ?_, rfl⟩
    simp only [decodeLine, stripSuffix_cr, stripCr, if_neg hlast,
      stripPrefix_eq_some.mpr hstart]
    rfl

/-! ## One frame, read by the consumer -/

/-- The bytes are a text. -/
def isText (value : Bytes) : Bool := (fromUtf8 value).isSome

/-- What the consumer's decoder holds after the fields found so far. -/
def builderOf (found : Option Bytes × Option Bytes) : Builder where
  event := found.1.getD []
  data := (found.2.map (· ++ [10])).getD []

/-- The fields found so far are texts. -/
def textFields (found : Option Bytes × Option Bytes) : Bool :=
  isText (found.1.getD []) && isText (found.2.getD [])

/-- The two ways to drop the blank before a value. -/
theorem fieldValue_eq (value : Bytes) :
    fieldValue value = if value.head? = some 32 then value.tail else value := by
  rw [fieldValue, stripPrefix]
  cases value with
  | nil => rfl
  | cons byte rest =>
      by_cases hbyte : byte = 32
      · simp [hbyte]
      · have hne : ¬ (32 : UInt8) = byte := fun h => hbyte h.symm
        simp [hbyte, hne]

/-- A blank before a value does not change whether it is a text. -/
theorem isText_fieldValue (value : Bytes) : isText (fieldValue value) = isText value := by
  rw [fieldValue_eq]
  split
  · rename_i hhead
    obtain ⟨rest, rfl⟩ := List.head?_eq_some_iff.mp hhead
    exact (fromUtf8_cons_isSome (by decide) rest).symm
  · rfl

/-- No bytes are a text. -/
theorem isText_nil : isText [] = true := by decide

/-- A field line with an ASCII name is a text when its value is, since the name, the colon and the
blank are ASCII. -/
theorem isText_field {name : Bytes} (h : isAscii name = true) (value : Bytes) :
    isText (name ++ 58 :: value) = isText (fieldValue value) := by
  rw [isText_fieldValue, isText, isText, fromUtf8_append_isSome h,
    fromUtf8_cons_isSome (by decide)]

/-- One field line: the consumer's decoder finds the same field, and the line is a text when the
value is. The verifier refuses every other field, and the consumer would ignore it. -/
theorem decodeLine_eq_ok {found next : Option Bytes × Option Bytes} {line : Bytes}
    (hline : line.all isLineByte = true) (h : decodeLine found line = .ok next) :
    (builderOf found).add line = builderOf next ∧ line ≠ [] ∧
      textFields next = (textFields found && isText line) := by
  obtain ⟨name, payload⟩ := found
  simp only [decodeLine, stripSuffix_cr, EventSource.stripCr_eq_self hline] at h
  split at h
  · rename_i value hvalue
    have hdata : bytes "data:" = bytes "data" ++ [58] := by decide
    have hne : ¬ bytes "data" = bytes "event" := by decide
    rw [stripPrefix_eq_some, hdata, List.append_assoc, List.singleton_append] at hvalue
    simp only [bind_eq_ok, exists_unit, ensure_eq_ok, Option.isNone_iff_eq_none] at h
    obtain ⟨rfl, hnext⟩ := h
    cases hnext
    have hfield := EventSource.fieldOf_append (show 58 ∉ bytes "data" by decide) value
    rw [hvalue]
    refine ⟨?_, List.append_ne_nil_of_right_ne_nil _ (List.cons_ne_nil _ _), ?_⟩
    · simp only [Builder.add, hfield, ← fieldValue_eq, if_neg hne, if_true]
      rfl
    · rw [isText_field (by decide)]
      simp only [textFields, Option.getD_some, Option.getD_none, isText_nil, Bool.and_true]
  · split at h
    · rename_i value hvalue
      have hevent : bytes "event:" = bytes "event" ++ [58] := by decide
      rw [stripPrefix_eq_some, hevent, List.append_assoc, List.singleton_append] at hvalue
      simp only [bind_eq_ok, exists_unit, ensure_eq_ok, Option.isNone_iff_eq_none] at h
      obtain ⟨rfl, hnext⟩ := h
      cases hnext
      have hfield := EventSource.fieldOf_append (show 58 ∉ bytes "event" by decide) value
      rw [hvalue]
      refine ⟨?_, List.append_ne_nil_of_right_ne_nil _ (List.cons_ne_nil _ _), ?_⟩
      · simp only [Builder.add, hfield, ← fieldValue_eq, if_true]
        rfl
      · rw [isText_field (by decide)]
        simp only [textFields, Option.getD_some, Option.getD_none, isText_nil, Bool.true_and]
        exact Bool.and_comm _ _
    · -- Any other line is an error of the verifier.
      cases h

/-- A field that is not a text stays: later lines are other fields and do not replace it. -/
theorem textFields_eq_false {lines : List Bytes} {found next : Option Bytes × Option Bytes}
    (hlines : ∀ line ∈ lines, line.all isLineByte = true)
    (h : lines.foldlM decodeLine found = .ok next) (hnot : textFields found = false) :
    textFields next = false := by
  induction lines generalizing found with
  | nil => cases h; exact hnot
  | cons line lines ih =>
      rw [List.foldlM_cons, bind_eq_ok] at h
      obtain ⟨between, hline, hrest⟩ := h
      obtain ⟨-, -, hfields⟩ := decodeLine_eq_ok (hlines line List.mem_cons_self) hline
      rw [hnot, Bool.false_and] at hfields
      exact ih (fun other hother => hlines other (List.mem_cons_of_mem _ hother)) hrest hfields

/-- The field lines of a frame. When all of them are texts they build what the verifier found, and
otherwise the stream ends. The induction is on the lines, from whatever was found before. -/
theorem itemsFrom_fields {lines : List Bytes} {found next : Option Bytes × Option Bytes}
    (hlines : ∀ line ∈ lines, line.all isLineByte = true)
    (h : lines.foldlM decodeLine found = .ok next) (htext : textFields found = true)
    (more : List Bytes) (left : Bytes) :
    (textFields next = true ∧
      itemsFrom (builderOf found) (lines ++ more) left = itemsFrom (builderOf next) more left) ∨
    (textFields next = false ∧
      ∃ bad, itemsFrom (builderOf found) (lines ++ more) left = [.error bad]) := by
  induction lines generalizing found with
  | nil =>
      cases h
      exact .inl ⟨htext, rfl⟩
  | cons line lines ih =>
      rw [List.foldlM_cons, bind_eq_ok] at h
      obtain ⟨between, hline, hrest⟩ := h
      obtain ⟨hadd, hne, hfields⟩ := decodeLine_eq_ok (hlines line List.mem_cons_self) hline
      rw [htext, Bool.true_and] at hfields
      have hmore := fun line hline => hlines line (List.mem_cons_of_mem _ hline)
      rw [List.cons_append]
      cases hvalid : isText line with
      | true =>
          -- The consumer adds the line to its event, as `decode_sse_event` does.
          rw [EventSource.itemsFrom_field hvalid hne, hadd]
          exact ih hmore hrest (hfields.trans hvalid)
      | false =>
          -- The consumer stops at a line that is not UTF-8, with an error.
          rw [EventSource.itemsFrom_invalid hvalid]
          have hnot := textFields_eq_false hmore hrest (hfields.trans hvalid)
          exact .inr ⟨hnot, line, rfl⟩

/-- The lines of a frame, as the consumer's decoder cuts them. -/
def consumerLines (raw : Bytes) : List Bytes := (segmentsOf raw).flatMap EventSource.pieces

/-- The lines of a frame, cut at its line feeds only. -/
def frameLines (raw : Bytes) : List Bytes := (segmentsOf raw).map stripCr

/-- The event of a frame, as the consumer sees it. -/
def eventOf (event : SseEvent) : EventSource.Event where
  event := if event.name = [] then "message" else EventSource.text event.name
  data := EventSource.text event.payload
  id := ""

/-- A frame that the verifier decodes is one event to the consumer, when its name and payload are
texts, and the end of the stream when they are not. The verifier hashes bytes and does not ask for
UTF-8. -/
theorem itemsFrom_frame {raw : Bytes} {event : SseEvent} (h : decodeSseEvent raw = .ok event)
    (hlines : ∀ line ∈ frameLines raw, line.all isLineByte = true) (more : List Bytes)
    (left : Bytes) :
    (isText event.name && isText event.payload) = true ∧
        itemsFrom {} (frameLines raw ++ more) left =
          .ok (eventOf event) :: itemsFrom {} more left ∨
      (isText event.name && isText event.payload) = false ∧
        ∃ bad, itemsFrom {} (frameLines raw ++ more) left = [.error bad] := by
  obtain ⟨segments, last, name, hsegments, hlast, -, hname, -, hfold⟩ :=
    decodeSseEvent_segments h
  have hframe : frameLines raw = segments.map stripCr ++ [[]] := by
    rw [frameLines, hsegments, List.map_append, List.map_singleton, hlast]
  have hfields : ∀ line ∈ segments.map stripCr, line.all isLineByte = true := by
    intro line hline
    apply hlines
    rw [hframe]
    exact List.mem_append_left _ hline
  have hfold := hfold fun segment hsegment => hfields _ (List.mem_map_of_mem hsegment)
  have hcases := itemsFrom_fields hfields hfold (by decide) ([] :: more) left
  have htext : textFields (name, some event.payload) =
      (isText event.name && isText event.payload) := by
    rw [textFields, hname, Option.getD_some]
  rw [hframe, List.append_assoc, List.singleton_append, ← htext]
  rcases hcases with ⟨hvalid, hitems⟩ | hinvalid
  · -- The blank line dispatches. Its data is not empty, since every data line adds a line feed.
    refine .inl ⟨hvalid, hitems.trans ?_⟩
    have hdata : ¬ event.payload ++ [10] = [] :=
      List.append_ne_nil_of_right_ne_nil _ (List.cons_ne_nil _ _)
    rw [EventSource.itemsFrom_blank, Builder.dispatch, builderOf, Option.map_some,
      Option.getD_some, if_neg hdata, List.dropLast_concat, ← hname]
    rfl
  · exact .inr hinvalid

/-! ## A whole stream -/

/-- Bytes start as their start does. -/
theorem head_of_isPrefix {a b : Bytes} {byte : UInt8} (h : a <+: b) (ha : a.head? = some byte) :
    b.head? = some byte := by
  obtain ⟨rest, rfl⟩ := List.head?_eq_some_iff.mp ha
  obtain ⟨more, rfl⟩ := h
  rfl

/-- Stripping takes from the end only. -/
theorem stripCr_isPrefix (line : Bytes) : stripCr line <+: line := by
  rw [stripCr]
  split
  · exact List.dropLast_prefix line
  · exact List.prefix_rfl

/-- A line that is decoded starts with the name of a field, `data` or `event`. -/
theorem head_of_decodeLine {found next : Option Bytes × Option Bytes} {line : Bytes}
    (h : decodeLine found line = .ok next) : line.head? = some 100 ∨ line.head? = some 101 := by
  have hdata : bytes "data:" = [100, 97, 116, 97, 58] := by decide
  have hevent : bytes "event:" = [101, 118, 101, 110, 116, 58] := by decide
  obtain ⟨name, payload⟩ := found
  simp only [decodeLine, stripSuffix_cr, hdata, hevent] at h
  split at h
  · rename_i value hvalue
    rw [stripPrefix_eq_some] at hvalue
    exact .inl (head_of_isPrefix (stripCr_isPrefix line) (by rw [hvalue]; rfl))
  · split at h
    · rename_i value hvalue
      rw [stripPrefix_eq_some] at hvalue
      exact .inr (head_of_isPrefix (stripCr_isPrefix line) (by rw [hvalue]; rfl))
    · cases h

/-- A frame that is decoded starts with the name of a field, since its first line does. -/
theorem head_of_decodeSseEvent {raw : Bytes} {event : SseEvent}
    (h : decodeSseEvent raw = .ok event) : raw.head? = some 100 ∨ raw.head? = some 101 := by
  simp only [decodeSseEvent, bind_eq_ok, okOr_eq_ok] at h
  obtain ⟨body, hbody, found, hfold, -⟩ := h
  rw [Option.or_eq_some_iff, stripSuffix_eq_some, stripSuffix_eq_some] at hbody
  have hbody : body <+: raw := by
    rcases hbody with rfl | ⟨-, rfl⟩ <;> exact List.prefix_append _ _
  obtain ⟨line, lines, hlines⟩ := List.exists_cons_of_ne_nil (splitLines_ne_nil body)
  rw [hlines, List.foldlM_cons, bind_eq_ok] at hfold
  obtain ⟨next, hnext, -⟩ := hfold
  -- The first line is a prefix of the body, up to the line feed that ends it.
  have hinitial : line <+: body := by
    have hunlines := unlines_splitLines body
    rw [hlines, EventSource.unlines_cons] at hunlines
    have hline : line <+: body ++ [10] := ⟨_, hunlines⟩
    refine List.prefix_of_prefix_length_le hline (List.prefix_append _ _) ?_
    have hlength := congrArg List.length hunlines
    rw [List.length_append, List.length_cons, List.length_append, List.length_singleton] at hlength
    omega
  rcases head_of_decodeLine hnext with hhead | hhead
  · exact .inl (head_of_isPrefix (hinitial.trans hbody) hhead)
  · exact .inr (head_of_isPrefix (hinitial.trans hbody) hhead)

/-- A stream of frames that are decoded does not start with a byte order mark, because every frame
starts with the name of a field. -/
theorem head_ne_mark {raws : List Bytes}
    (hdecodes : ∀ raw ∈ raws, ∃ event, decodeSseEvent raw = .ok event) :
    raws.flatten.head? ≠ some 0xEF := by
  intro hhead
  cases raws with
  | nil => cases hhead
  | cons raw raws =>
      obtain ⟨event, hevent⟩ := hdecodes raw List.mem_cons_self
      have hinitial : raw <+: (raw :: raws).flatten := List.prefix_append _ _
      rcases head_of_decodeSseEvent hevent with hraw | hraw
      · rw [head_of_isPrefix hinitial hraw] at hhead
        exact absurd hhead (by decide)
      · rw [head_of_isPrefix hinitial hraw] at hhead
        exact absurd hhead (by decide)

/-- The segments of frames that are decoded, put together again, are the frames. -/
theorem unlines_segmentsOf {raws : List Bytes}
    (hdecodes : ∀ raw ∈ raws, ∃ event, decodeSseEvent raw = .ok event) :
    unlines (raws.flatMap segmentsOf) = raws.flatten := by
  rw [EventSource.unlines_flatMap]
  refine congrArg List.flatten ?_
  conv_rhs => rw [← List.map_id raws]
  refine List.map_congr_left ?_
  intro raw hraw
  obtain ⟨event, hevent⟩ := hdecodes raw hraw
  obtain ⟨-, -, -, -, -, hunlines, -⟩ := decodeSseEvent_segments hevent
  exact hunlines

/-- Segments stand between line feeds. -/
theorem segmentsOf_no_lf (raws : List Bytes) :
    ∀ segment ∈ raws.flatMap segmentsOf, 10 ∉ segment := by
  intro segment hsegment
  obtain ⟨raw, -, hmem⟩ := List.mem_flatMap.mp hsegment
  exact not_mem_of_mem_splitLines (List.dropLast_subset _ hmem)

/-- The consumer reads frames that are decoded line by line, whatever carriage returns stand in
them. No such frame starts with a byte order mark, so none is stripped. -/
theorem items_flatten {raws : List Bytes}
    (hdecodes : ∀ raw ∈ raws, ∃ event, decodeSseEvent raw = .ok event) :
    EventSource.items raws.flatten = itemsFrom {} (raws.flatMap consumerLines) [] := by
  have hmark : ¬ EventSource.byteOrderMark.isPrefixOf raws.flatten = true := by
    rw [List.isPrefixOf_iff_prefix]
    intro hmark
    exact head_ne_mark hdecodes (head_of_isPrefix hmark rfl)
  have hcut := EventSource.cutLines_unlines (segmentsOf_no_lf raws)
  rw [unlines_segmentsOf hdecodes, List.flatMap_assoc] at hcut
  simp only [EventSource.items, if_neg hmark, hcut]
  rfl

/-- Where every carriage return stands before a line feed, the consumer's lines are those the
verifier reads. -/
theorem consumerLines_eq {raws : List Bytes}
    (hdecodes : ∀ raw ∈ raws, ∃ event, decodeSseEvent raw = .ok event)
    (hcr : crBeforeLf raws.flatten = true) :
    ∀ raw ∈ raws, consumerLines raw = frameLines raw ∧
      ∀ line ∈ frameLines raw, line.all isLineByte = true := by
  intro raw hraw
  rw [← unlines_segmentsOf hdecodes] at hcr
  have hall : ∀ segment ∈ segmentsOf raw, (stripCr segment).all isLineByte = true :=
    fun segment hsegment => EventSource.all_stripCr (segmentsOf_no_lf raws) hcr segment
      (List.mem_flatMap.mpr ⟨raw, hraw, hsegment⟩)
  constructor
  · rw [consumerLines, frameLines, List.map_eq_flatMap]
    refine List.flatMap_congr ?_
    intro segment hsegment
    exact EventSource.pieces_eq_singleton (hall segment hsegment)
  · intro line hline
    obtain ⟨segment, hsegment, rfl⟩ := List.mem_map.mp hline
    exact hall segment hsegment

end TrustedRouter.Proofs.Receipts
