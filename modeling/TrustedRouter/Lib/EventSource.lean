import TrustedRouter.Lib.Str

/-!
# `TrustedRouter.Lib.EventSource`: server-sent events

The decoder of `text/event-stream`, as the `eventsource-stream` crate implements the HTML
standard. A line ends at LF, CR LF or CR. A line with a colon is a field, with one blank after
the colon dropped. A blank line dispatches the event that the fields before it built, unless no
data was among them.

The text is UTF-8. A byte that is not stops the decoder for good: no line with it in it is ever
completed, and the stream ends in an error. So each line is checked when it is complete.

`cutLines_unlines` says which lines a stream has, and `itemsFrom_field` and `itemsFrom_blank` what
the decoder does with one. `SameData` relates lines that a reader of the data cannot tell apart.
-/

set_option autoImplicit false

namespace EventSource

open Rust (Bytes)
open Rust.Str

/-- One event of a stream. -/
structure Event where
  event : String
  data : String
  id : String
  deriving DecidableEq, Repr

/-! ## Lines -/

/-- The complete lines of a stream, from the line begun so far, and what is left of the last
one. A line feed right after a carriage return belongs to it. A carriage return at the very end
completes no line, since a line feed could follow it. -/
def cutLines (afterCr : Bool) (line : Bytes) : Bytes → List Bytes × Bytes
  | [] => ([], line)
  | byte :: rest =>
      if byte = 10 then
        if afterCr then cutLines false line rest
        else
          let (lines, left) := cutLines false [] rest
          (line :: lines, left)
      else if byte = 13 then
        if rest = [] then ([], line ++ [13])
        else
          let (lines, left) := cutLines true [] rest
          (line :: lines, left)
      else cutLines false (line ++ [byte]) rest

/-- The byte is part of a line. -/
def isLineByte (byte : UInt8) : Bool := byte != 10 && byte != 13

/-- Every carriage return stands right before a line feed. -/
def crBeforeLf : Bytes → Bool
  | [] => true
  | byte :: rest => (byte != 13 || rest.head? == some 10) && crBeforeLf rest

/-- A line without the carriage return at its end. -/
def stripCr (line : Bytes) : Bytes := if line.getLast? = some 13 then line.dropLast else line

/-- The carriage return of a CR LF is taken off. -/
theorem stripCr_concat (line : Bytes) : stripCr (line ++ [13]) = line := by
  rw [stripCr, List.getLast?_concat, if_pos rfl, List.dropLast_concat]

/-- A line without line ends has nothing to strip. -/
theorem stripCr_eq_self {line : Bytes} (h : line.all isLineByte = true) : stripCr line = line := by
  rw [stripCr, if_neg]
  intro hlast
  have hcr := List.all_eq_true.mp h 13 (List.mem_of_getLast? hlast)
  exact absurd hcr (by decide)

/-- The first byte stays, unless it is the carriage return at the end. -/
theorem stripCr_cons {byte : UInt8} {line : Bytes} (h : byte ≠ 13 ∨ line ≠ []) :
    stripCr (byte :: line) = byte :: stripCr line := by
  cases line with
  | nil =>
      have hbyte : byte ≠ 13 := h.resolve_right fun hne => hne rfl
      have hlast : ¬ [byte].getLast? = some 13 := by simpa using hbyte
      rw [stripCr, if_neg hlast]
      rfl
  | cons next line =>
      rw [stripCr, stripCr, List.getLast?_cons_cons]
      split
      · rw [List.dropLast_cons_of_ne_nil (List.cons_ne_nil _ _)]
      · rfl

/-- The lines in a segment between two line feeds. A carriage return at its end belongs to the
line feed, and every other one ends a line by itself. -/
def pieces (segment : Bytes) : List Bytes := (stripCr segment).splitOn 13

/-- A lone carriage return ends a line, here a blank one. -/
theorem pieces_cr {segment : Bytes} (h : segment ≠ []) :
    pieces (13 :: segment) = [] :: pieces segment := by
  rw [pieces, stripCr_cons (.inr h), List.splitOn_cons_eq_if_modifyHead,
    if_pos (beq_self_eq_true _)]
  rfl

/-- Any other byte belongs to the first line of the segment. -/
theorem pieces_cons {byte : UInt8} (h : byte ≠ 13) (segment : Bytes) :
    pieces (byte :: segment) = (pieces segment).modifyHead (byte :: ·) := by
  have hfalse : ¬ (byte == 13) = true := by rwa [beq_iff_eq]
  rw [pieces, stripCr_cons (.inl h), List.splitOn_cons_eq_if_modifyHead, if_neg hfalse]
  rfl

/-- A segment without a lone carriage return is one line, the one that a reader of LF and CR LF
sees. -/
theorem pieces_eq_singleton {segment : Bytes} (h : (stripCr segment).all isLineByte = true) :
    pieces segment = [stripCr segment] := by
  refine List.splitOn_eq_singleton ?_
  intro hmem
  exact absurd (List.all_eq_true.mp h 13 hmem) (by decide)

/-- Bytes in front that are no carriage return extend the first line. -/
theorem splitOn_append {start : Bytes} (h : 13 ∉ start) (text : Bytes) :
    (start ++ text).splitOn 13 = (text.splitOn 13).modifyHead (start ++ ·) := by
  induction start with
  | nil => exact (congrFun List.modifyHead_id _).symm
  | cons byte start ih =>
      rw [List.mem_cons, not_or] at h
      have hfalse : ¬ (byte == 13) = true := by
        rw [beq_iff_eq]
        exact Ne.symm h.1
      rw [List.cons_append, List.splitOn_cons_eq_if_modifyHead, if_neg hfalse, ih h.2,
        List.modifyHead_modifyHead]
      rfl

/-- The first line starts as the text does, unless it is blank. What a text cannot start with,
such as the byte order mark, its first line cannot start with either. -/
theorem head_of_splitOn {text line : Bytes} {lines : List Bytes}
    (h : text.splitOn 13 = line :: lines) : line = [] ∨ line.head? = text.head? := by
  cases text with
  | nil =>
      rw [List.splitOn_nil] at h
      exact .inl (List.cons.inj h).1.symm
  | cons byte text =>
      rw [List.splitOn_cons_eq_if_modifyHead] at h
      split at h
      · exact .inl (List.cons.inj h).1.symm
      · obtain ⟨first, later, hsplit⟩ := List.exists_cons_of_ne_nil (List.splitOn_ne_nil 13 text)
        rw [hsplit, List.modifyHead_cons] at h
        rw [← (List.cons.inj h).1]
        exact .inr rfl

/-- With the carriage return that belongs to a CR LF, one at the end of the segment is a lone one,
and it leaves a blank line behind. Otherwise the line ends are the same. -/
theorem pieces_concat_cr (segment : Bytes) :
    pieces (segment ++ [13]) = pieces segment ∨
      pieces (segment ++ [13]) = pieces segment ++ [[]] := by
  rw [pieces, stripCr_concat, pieces]
  by_cases hlast : segment.getLast? = some 13
  · obtain ⟨text, rfl⟩ := List.getLast?_eq_some_iff.mp hlast
    rw [stripCr_concat, List.splitOn_append_cons_self]
    exact .inr rfl
  · rw [stripCr, if_neg hlast]
    exact .inl rfl

/-- A carriage return with no line feed after it leaves nothing to remember. The flag is there to
skip the line feed of a CR LF only. -/
theorem cutLines_afterCr {text : Bytes} (h : text.head? ≠ some 10) :
    cutLines true [] text = cutLines false [] text := by
  cases text with
  | nil => rfl
  | cons byte rest =>
      have hbyte : ¬ byte = 10 := fun heq => h (by rw [heq]; rfl)
      rw [cutLines, cutLines, if_neg hbyte, if_neg hbyte]

/-- A segment up to a line feed, read after the beginning of its first line. The induction is on
the segment, and `begun` collects the line that the next carriage return ends. -/
theorem cutLines_segment {segment : Bytes} (hlf : 10 ∉ segment) (begun rest : Bytes) :
    cutLines false begun (segment ++ 10 :: rest) =
      ((pieces segment).modifyHead (begun ++ ·) ++ (cutLines false [] rest).1,
        (cutLines false [] rest).2) := by
  induction segment generalizing begun with
  | nil =>
      rw [List.nil_append, cutLines, if_pos rfl]
      simp [pieces, stripCr]
  | cons byte segment ih =>
      rw [List.mem_cons, not_or] at hlf
      obtain ⟨hbyte, hsegment⟩ := hlf
      rw [List.cons_append, cutLines, if_neg (Ne.symm hbyte)]
      by_cases hcr : byte = 13
      · have hmore : ¬ segment ++ 10 :: rest = [] :=
          List.append_ne_nil_of_right_ne_nil _ (List.cons_ne_nil _ _)
        rw [if_pos hcr, if_neg hmore, hcr]
        cases segment with
        | nil =>
            -- The line feed after this carriage return belongs to it.
            rw [List.nil_append, cutLines, if_pos rfl]
            simp [pieces, stripCr]
        | cons next segment =>
            have hhead : ((next :: segment) ++ 10 :: rest).head? ≠ some 10 := by
              intro hhead
              exact hsegment (by rw [← Option.some.inj hhead]; exact List.mem_cons_self)
            have hwhole : (pieces (next :: segment)).modifyHead ([] ++ ·) =
                pieces (next :: segment) := congrFun List.modifyHead_id _
            rw [cutLines_afterCr hhead, ih hsegment, hwhole, pieces_cr (List.cons_ne_nil _ _),
              List.modifyHead_cons, List.append_nil]
            rfl
      · rw [if_neg hcr, ih hsegment, pieces_cons hcr, List.modifyHead_modifyHead]
        simp [Function.comp_def]

/-- The stream of lines that end at a line feed. -/
def unlines (segments : List Bytes) : Bytes := (segments.map (· ++ [10])).flatten

/-- Each segment ends at a line feed, the last one too. -/
theorem unlines_cons (segment : Bytes) (segments : List Bytes) :
    unlines (segment :: segments) = segment ++ 10 :: unlines segments := by
  rw [unlines, unlines, List.map_cons, List.flatten_cons, List.append_assoc,
    List.singleton_append]

/-- The text of two lists of segments, one after the other. -/
theorem unlines_append (a b : List Bytes) : unlines (a ++ b) = unlines a ++ unlines b := by
  rw [unlines, unlines, unlines, List.map_append, List.flatten_append]

/-- The text of segments that come in groups is made of the texts of the groups. -/
theorem unlines_flatMap {α : Type} (segments : α → List Bytes) (l : List α) :
    unlines (l.flatMap segments) = (l.map fun a => unlines (segments a)).flatten := by
  induction l with
  | nil => rfl
  | cons a l ih => rw [List.flatMap_cons, unlines_append, ih, List.map_cons, List.flatten_cons]

/-- The lines of a stream are the pieces of its segments. -/
theorem cutLines_unlines {segments : List Bytes} (hlf : ∀ segment ∈ segments, 10 ∉ segment) :
    cutLines false [] (unlines segments) = (segments.flatMap pieces, []) := by
  induction segments with
  | nil => rfl
  | cons segment segments ih =>
      have hrest := ih fun other hother => hlf other (List.mem_cons_of_mem _ hother)
      have hwhole : (pieces segment).modifyHead ([] ++ ·) = pieces segment :=
        congrFun List.modifyHead_id _
      rw [unlines_cons, cutLines_segment (hlf segment List.mem_cons_self), hrest, hwhole,
        List.flatMap_cons]

/-- Where every carriage return stands before a line feed, the same is true of the end of the text.
-/
theorem crBeforeLf_of_append {a b : Bytes} (h : crBeforeLf (a ++ b) = true) :
    crBeforeLf b = true := by
  induction a with
  | nil => exact h
  | cons byte a ih =>
      rw [List.cons_append, crBeforeLf, Bool.and_eq_true] at h
      exact ih h.2

/-- Up to a line feed, a carriage return can only be the last byte. Elsewhere it would be followed
by a byte of the segment, and `hlf` says that this is no line feed. -/
theorem all_stripCr_segment {segment rest : Bytes} (hlf : 10 ∉ segment)
    (hcr : crBeforeLf (segment ++ 10 :: rest) = true) :
    (stripCr segment).all isLineByte = true := by
  induction segment with
  | nil => rfl
  | cons byte segment ih =>
      rw [List.mem_cons, not_or] at hlf
      rw [List.cons_append, crBeforeLf, Bool.and_eq_true, Bool.or_eq_true, bne_iff_ne,
        beq_iff_eq] at hcr
      obtain ⟨hhead, htail⟩ := hcr
      by_cases hbyte : byte = 13
      · -- The byte after a carriage return is a line feed, so the segment ends here.
        have hnext := hhead.resolve_left (not_not.mpr hbyte)
        cases segment with
        | nil => rw [hbyte]; rfl
        | cons next segment =>
            rw [List.cons_append, List.head?_cons, Option.some.injEq] at hnext
            exact absurd List.mem_cons_self (hnext ▸ hlf.2)
      · have hline : isLineByte byte = true := by
          simp only [isLineByte, Bool.and_eq_true, bne_iff_ne]
          exact ⟨fun h => hlf.1 h.symm, hbyte⟩
        rw [stripCr_cons (.inl hbyte), List.all_cons, hline, ih hlf.2 htail]
        rfl

/-- Then no segment has a carriage return, once the one at its end is stripped. -/
theorem all_stripCr {segments : List Bytes} (hlf : ∀ segment ∈ segments, 10 ∉ segment)
    (hcr : crBeforeLf (unlines segments) = true) :
    ∀ segment ∈ segments, (stripCr segment).all isLineByte = true := by
  induction segments with
  | nil => exact fun _ h => nomatch h
  | cons segment segments ih =>
      rw [unlines_cons] at hcr
      have htail : crBeforeLf (unlines segments) = true := by
        have hcut : segment ++ 10 :: unlines segments = (segment ++ [10]) ++ unlines segments := by
          rw [List.append_assoc, List.singleton_append]
        rw [hcut] at hcr
        exact crBeforeLf_of_append hcr
      intro other hother
      rcases List.mem_cons.mp hother with rfl | hother
      · exact all_stripCr_segment (hlf _ List.mem_cons_self) hcr
      · exact ih (fun s hs => hlf s (List.mem_cons_of_mem _ hs)) htail other hother

/-! ## Events -/

/-- A field line: its name, and its value without the one blank before it. -/
def fieldOf (line : Bytes) : Bytes × Bytes :=
  let name := line.takeWhile (· != 58)
  let value := line.drop (name.length + 1)
  (name, if value.head? = some 32 then value.tail else value)

/-- The event under construction, in bytes. -/
structure Builder where
  event : Bytes := []
  data : Bytes := []
  id : Bytes := []
  deriving DecidableEq, Repr

/-- One field. An unknown one is ignored, and so is a comment, whose name is empty. -/
def Builder.add (builder : Builder) (line : Bytes) : Builder :=
  let (name, value) := fieldOf line
  if name = bytes "event" then { builder with event := value }
  else if name = bytes "data" then { builder with data := builder.data ++ value ++ [10] }
  else if name = bytes "id" then
    if value.contains 0 then builder else { builder with id := value }
  else builder

/-- The text of bytes that were checked. -/
def text (value : Bytes) : String := (fromUtf8 value).getD ""

/-- The event that was built, which needs data. Its last line feed is dropped. -/
def Builder.dispatch (builder : Builder) : Option Event :=
  if builder.data = [] then none
  else
    some { event := if builder.event = [] then "message" else text builder.event
           data := text builder.data.dropLast
           id := text builder.id }

/-- What the decoder makes of the complete lines and of what is left at the end. An error
carries the line that is not UTF-8. -/
def itemsFrom (builder : Builder) : List Bytes → Bytes → List (Except Bytes Event)
  | [], left => if (fromUtf8 left).isSome then [] else [.error left]
  | line :: lines, left =>
      if (fromUtf8 line).isNone then [.error line]
      else if line = [] then
        (builder.dispatch.map Except.ok).toList ++ itemsFrom { id := builder.id } lines left
      else itemsFrom (builder.add line) lines left

/-- The byte order mark. -/
def byteOrderMark : Bytes := [0xEF, 0xBB, 0xBF]

/-- The events of a stream that ends after these bytes. The crate panics on a stream that starts
with a byte order mark, because it cuts one of its three bytes off. Such a stream is read here as
the standard has it, and no result about the program rests on that. -/
def items (stream : Bytes) : List (Except Bytes Event) :=
  let stream := if byteOrderMark.isPrefixOf stream then stream.drop 3 else stream
  let (lines, left) := cutLines false [] stream
  itemsFrom {} lines left

/-- A field line goes into the event under construction. -/
theorem itemsFrom_field {line : Bytes} (hvalid : (fromUtf8 line).isSome = true) (hne : line ≠ [])
    (builder : Builder) (lines : List Bytes) (left : Bytes) :
    itemsFrom builder (line :: lines) left = itemsFrom (builder.add line) lines left := by
  rw [itemsFrom, if_neg, if_neg hne]
  rw [Option.isNone_iff_eq_none]
  exact Option.isSome_iff_ne_none.mp hvalid

/-- A line that is not UTF-8 ends the stream with an error. -/
theorem itemsFrom_invalid {line : Bytes} (hinvalid : (fromUtf8 line).isSome = false)
    (builder : Builder) (lines : List Bytes) (left : Bytes) :
    itemsFrom builder (line :: lines) left = [.error line] := by
  rw [itemsFrom, if_pos]
  rw [Option.isNone_iff_eq_none]
  exact Option.isSome_eq_false_iff.mp hinvalid |> Option.isNone_iff_eq_none.mp

/-- A blank line dispatches. The id stays for the events to come, and the rest of the builder
starts anew. Without data nothing is dispatched. -/
theorem itemsFrom_blank (builder : Builder) (lines : List Bytes) (left : Bytes) :
    itemsFrom builder ([] :: lines) left =
      (builder.dispatch.map Except.ok).toList ++ itemsFrom { id := builder.id } lines left := by
  rw [itemsFrom, if_neg, if_pos rfl]
  rw [fromUtf8_eq_some.mpr (show bytes "" = [] by rfl)]
  exact Bool.false_ne_true

/-- The name of a field stands before its colon, and one blank after the colon is no part of its
value. -/
theorem fieldOf_append {name : Bytes} (h : 58 ∉ name) (value : Bytes) :
    fieldOf (name ++ 58 :: value) =
      (name, if value.head? = some 32 then value.tail else value) := by
  have htake : (name ++ 58 :: value).takeWhile (· != 58) = name := by
    rw [List.takeWhile_append_of_pos, List.takeWhile_cons_of_neg (by decide), List.append_nil]
    intro byte hbyte
    rw [bne_iff_ne]
    rintro rfl
    exact h hbyte
  have hdrop : (name ++ 58 :: value).drop (name.length + 1) = value := by
    rw [List.drop_append]
    simp
  simp only [fieldOf, htake, hdrop]

/-! ## The data of the events

What a reader of the data alone can tell apart. The lines of a stream may differ in more than
that: a line with another field, a blank line where no event is under construction. `SameData`
relates lines that can stand for each other wherever they stand. -/

/-- The data of an event, and nothing where the stream ends in an error. -/
def itemData (item : Except Bytes Event) : Option String := item.toOption.map Event.data

/-- Whether an event is dispatched, and the data it carries, depends on the data of the builder
and not on its name or id. -/
theorem itemData_dispatch {builder other : Builder} (h : builder.data = other.data) :
    (builder.dispatch.map Except.ok).toList.map itemData =
      (other.dispatch.map Except.ok).toList.map itemData := by
  rw [Builder.dispatch, Builder.dispatch, h]
  split <;> rfl

/-- The data after a field is that before it, extended by the value of a `data` field. -/
theorem data_add (builder : Builder) (line : Bytes) :
    (builder.add line).data =
      builder.data ++ if (fieldOf line).1 = bytes "data" then (fieldOf line).2 ++ [10] else [] := by
  have hne : ¬ bytes "data" = bytes "event" := by decide
  unfold Builder.add
  by_cases hdata : (fieldOf line).1 = bytes "data"
  · simp only [hdata, if_neg hne, if_true, List.append_assoc]
  · simp only [if_neg hdata, List.append_nil]
    split
    · rfl
    · split
      · split <;> rfl
      · rfl

/-- Two lists of lines show the same data, after the same data and before the same lines. -/
def SameData (a b : List Bytes) : Prop :=
  ∀ builder other : Builder, builder.data = other.data → ∀ rest left,
    (itemsFrom builder (a ++ rest) left).map itemData =
      (itemsFrom other (b ++ rest) left).map itemData

namespace SameData

/-- Lines in front keep the relation. -/
theorem append_left {b c : List Bytes} (h : SameData b c) (a : List Bytes) :
    SameData (a ++ b) (a ++ c) := by
  induction a with
  | nil => exact h
  | cons line a ih =>
      intro builder other hdata rest left
      rw [List.cons_append, List.cons_append, List.cons_append, List.cons_append, itemsFrom,
        itemsFrom]
      split
      · rfl
      · split
        · rw [List.map_append, List.map_append, itemData_dispatch hdata,
            ih { id := builder.id } { id := other.id } rfl]
        · refine ih _ _ ?_ rest left
          rw [data_add, data_add, hdata]

/-- Lines show what they show. -/
theorem refl (a : List Bytes) : SameData a a := by
  have hnil : SameData [] [] := by
    intro builder other hdata rest left
    induction rest generalizing builder other with
    | nil => rfl
    | cons line rest ih =>
        rw [List.nil_append, itemsFrom, itemsFrom]
        split
        · rfl
        · split
          · rw [List.map_append, List.map_append, itemData_dispatch hdata]
            exact congrArg _ (ih _ _ rfl)
          · refine ih _ _ ?_
            rw [data_add, data_add, hdata]
  have hwhole := hnil.append_left a
  rwa [List.append_nil] at hwhole

/-- The relation is passed on, so a stream can be rewritten in several steps. -/
theorem trans {a b c : List Bytes} (hab : SameData a b) (hbc : SameData b c) : SameData a c := by
  intro builder other hdata rest left
  rw [hab builder other hdata, hbc other other rfl]

/-- Two streams that are related part by part are related. -/
theorem append {a b c d : List Bytes} (hab : SameData a b) (hcd : SameData c d) :
    SameData (a ++ c) (b ++ d) := by
  refine trans (b := b ++ c) ?_ (hcd.append_left b)
  intro builder other hdata rest left
  rw [List.append_assoc, List.append_assoc]
  exact hab builder other hdata (c ++ rest) left

/-- Two field lines with the same data, both of them texts or neither. -/
theorem field {a b : Bytes} (ha : a ≠ []) (hb : b ≠ [])
    (htext : (fromUtf8 a).isSome = (fromUtf8 b).isSome)
    (hdata : ∀ builder : Builder, (builder.add a).data = (builder.add b).data) :
    SameData [a] [b] := by
  intro builder other hsame rest left
  rw [List.singleton_append, List.singleton_append]
  cases hvalid : (fromUtf8 b).isSome with
  | true =>
      rw [itemsFrom_field (htext.trans hvalid) ha, itemsFrom_field hvalid hb]
      refine refl [] _ _ ?_ rest left
      rw [hdata, data_add, data_add, hsame]
  | false =>
      rw [itemsFrom_invalid (htext.trans hvalid), itemsFrom_invalid hvalid]
      rfl

/-- A text line of another field shows nothing. It has to be a text, because otherwise it would
end the stream. -/
theorem skip {line : Bytes} (hne : line ≠ []) (htext : (fromUtf8 line).isSome = true)
    (hfield : (fieldOf line).1 ≠ bytes "data") : SameData [line] [] := by
  intro builder other hsame rest left
  rw [List.singleton_append, itemsFrom_field htext hne]
  refine refl [] _ _ ?_ rest left
  rw [data_add, if_neg hfield, List.append_nil, hsame]

/-- A blank line after a blank line dispatches nothing, since the builder is empty by then. -/
theorem blank_blank : SameData [[], []] [[]] := by
  intro builder other hsame rest left
  have hnothing : ({ id := builder.id } : Builder).dispatch = none := if_pos rfl
  show (itemsFrom builder ([] :: [] :: rest) left).map itemData = _
  rw [itemsFrom_blank, itemsFrom_blank, hnothing, List.singleton_append, itemsFrom_blank,
    List.map_append, List.map_append, List.map_append, itemData_dispatch hsame]
  exact congrArg _ (refl [] { id := builder.id } { id := other.id } rfl rest left)

end SameData

/-- Lines up to a blank one are read by themselves: what comes after them starts anew, unless a
line among them is not a text and ends the stream. The induction is on the lines. An empty list of
lines leaves the builder as it is, and `hstart` says that there is nothing in it to show. -/
theorem map_itemData_append {lines : List Bytes} (builder : Builder)
    (hlast : lines.getLast?.getD [] = []) (hstart : lines = [] → builder.data = [])
    (rest : List Bytes) (left : Bytes) :
    ∃ tail, (itemsFrom builder (lines ++ rest) left).map itemData =
        (itemsFrom builder lines []).map itemData ++ tail ∧
      (tail = (itemsFrom {} rest left).map itemData ∨
        tail = [] ∧ none ∈ (itemsFrom builder lines []).map itemData) := by
  induction lines generalizing builder with
  | nil => exact ⟨_, rfl, .inl (SameData.refl [] builder {} (hstart rfl) rest left)⟩
  | cons line lines ih =>
      have hlater : lines.getLast?.getD [] = [] := by
        cases lines with
        | nil => rfl
        | cons next lines => rwa [List.getLast?_cons_cons] at hlast
      rw [List.cons_append, itemsFrom, itemsFrom]
      split
      · exact ⟨[], rfl, .inr ⟨rfl, List.mem_singleton.mpr rfl⟩⟩
      · split
        · obtain ⟨tail, heq, htail⟩ := ih { id := builder.id } hlater fun _ => rfl
          refine ⟨tail, ?_, ?_⟩
          · rw [List.map_append, List.map_append, heq, List.append_assoc]
          · refine htail.imp_right fun hnone => ⟨hnone.1, ?_⟩
            rw [List.map_append]
            exact List.mem_append_right _ hnone.2
        · rename_i hne
          refine ih _ hlater ?_
          -- The last line is blank, so this one is not the last.
          rintro rfl
          exact absurd hlast hne

end EventSource
