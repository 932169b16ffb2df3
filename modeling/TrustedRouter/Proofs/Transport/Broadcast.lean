import TrustedRouter.Broadcast
import TrustedRouter.Lib.UrlPath
import TrustedRouter.Proofs.Transport.Routing

/-!
# `TrustedRouter.Proofs.Transport.Broadcast`: where a call on a destination goes

`resource_path` looks for separators in an id, and `plane_urls` resolves the path that it
builds. Resolving removes tabs and newlines, and blanks at the end, and it reads dot segments.
So an id can pass the check and still not name a segment: `..` pops `destinations`, and a
blank leaves nothing behind it. `join_destination` is the URL of every id that passes both
checks. `destination_confined_iff` says for which ids it is a URL of one destination.
-/

set_option autoImplicit false

namespace TrustedRouter.Proofs.Transport

open TrustedRouter.Transport
open Rust.Str
open Rust.Result
open Serde (Value)
open Whatwg (Url Backend IsDirectory slashed cleanEnd isDot isDoubleDot isSingleDot isSlash
  endsPath percentEncode inPathSet pushSegments)

/-! ## The calls -/

/-- The three calls on one destination. -/
inductive Operation where
  | fetch
  | update (patch : Value)
  | delete

/-- What each of them hands to `Client::request`. -/
def Operation.request (operation : Operation) (client : Client) (uuid id : String)
    (options : CallOptions) : Except Error Requested :=
  match operation with
  | .fetch => broadcastDestination client id options
  | .update patch => updateBroadcastDestination client uuid id patch options
  | .delete => deleteBroadcastDestination client uuid id options

/-- An id that `resource_path` accepts. -/
structure IsResourceId (id : String) : Prop where
  ne_empty : id ≠ ""
  no_slash : '/' ∉ id.toList
  no_query : '?' ∉ id.toList
  no_fragment : '#' ∉ id.toList

/-- `resource_path` succeeds exactly on an id that is not empty and has no slash, question mark or
number sign. The id is then appended as it is, with no encoding. -/
theorem resourcePath_eq_ok {stem id path : String} :
    resourcePath stem id = .ok path ↔ IsResourceId id ∧ stem ++ "/" ++ id = path := by
  simp only [resourcePath, bind_eq_ok, exists_unit, ensure_eq_ok, Bool.not_eq_true',
    Bool.or_eq_false_iff, isEmpty_eq_false_iff, containsChar, List.contains_eq_mem,
    decide_eq_false_iff_not]
  constructor
  · rintro ⟨⟨⟨⟨hempty, hslash⟩, hquery⟩, hfragment⟩, hpath⟩
    exact ⟨⟨hempty, hslash, hquery, hfragment⟩, Except.ok.inj hpath⟩
  · rintro ⟨⟨hempty, hslash, hquery, hfragment⟩, rfl⟩
    exact ⟨⟨⟨⟨hempty, hslash⟩, hquery⟩, hfragment⟩, rfl⟩

/-- All three operations go to the control plane, on the path of the id. What they differ in, the
method, the body and the key, has no part in where the request goes. -/
theorem Operation.request_eq_ok {operation : Operation} {client : Client} {uuid id : String}
    {options : CallOptions} {requested : Requested}
    (h : operation.request client uuid id options = .ok requested) :
    IsResourceId id ∧ requested.plane = .control ∧
      requested.path = "/broadcast/destinations/" ++ id := by
  have hall : ∀ {method body options}, destinationRequest client method id body options =
      .ok requested → IsResourceId id ∧ requested.plane = .control ∧
        requested.path = "/broadcast/destinations/" ++ id := by
    intro method body options h
    simp only [destinationRequest, bind_eq_ok, resourcePath_eq_ok] at h
    obtain ⟨path, ⟨hid, rfl⟩, hrequested⟩ := h
    cases hrequested
    exact ⟨hid, rfl, rfl⟩
  cases operation with
  | fetch => exact hall h
  | update patch => exact hall h
  | delete => exact hall h

/-! ## The URL of an id -/

/-- The characters of the path, with the leading slash split off: what follows it is the reference
that is joined. -/
theorem toList_destination (id : String) : ("/broadcast/destinations/" ++ id).toList =
    '/' :: ("broadcast/destinations/".toList ++ id.toList) := by
  rw [String.toList_append]
  rfl

/-- The guard on the path refuses a backslash of the id, and nothing else. -/
theorem isRootRelative_destination (id : String) :
    isRootRelative ("/broadcast/destinations/" ++ id) = !containsChar id '\\' := by
  have hone : startsWith ("/broadcast/destinations/" ++ id) "/" = true := by
    rw [startsWith, toList_destination]
    rfl
  have htwo : startsWith ("/broadcast/destinations/" ++ id) "//" = false := by
    rw [startsWith, toList_destination]
    rfl
  have hcontains : containsChar ("/broadcast/destinations/" ++ id) '\\' =
      containsChar id '\\' := by
    rw [containsChar, String.toList_append, List.contains_append]
    rfl
  rw [isRootRelative, hone, htwo, hcontains]
  rfl

/-- What is joined onto the base: the path without its leading slash. -/
theorem pathReference_destination (id : String) :
    pathReference ("/broadcast/destinations/" ++ id) = "broadcast/destinations/" ++ id := by
  rw [pathReference, trimStartMatches, toList_destination]
  show String.ofList ("broadcast/destinations/".toList ++ id.toList) = _
  rw [String.ofList_append, String.ofList_toList, String.ofList_toList]

/-- The reference that the parser works on. -/
def destinationReference (segment : List Char) : List Char :=
  "broadcast/destinations/".toList ++ segment

/-- What it resolves to below a directory. -/
def destinationUrl (base : Url) (segments : List String) (segment : List Char) : Url :=
  { base with
    path := .segments
      (pushSegments segments ["broadcast".toList, "destinations".toList, segment])
    query := none
    fragment := none }

/-- Only the end of the id is cleaned. -/
theorem clean_destination (id : String) :
    Whatwg.clean ("broadcast/destinations/" ++ id).toList =
      destinationReference (cleanEnd id.toList) := by
  rw [String.toList_append]
  exact Whatwg.clean_append (by decide) (List.all_iff_forall_prop.mp (by decide)) _

section
variable {id : String} (hid : IsResourceId id)
include hid

/-- It is a path, since the id has no query or fragment: `resource_path` refuses both
characters. -/
theorem endsPath_destination :
    ∀ c ∈ destinationReference (cleanEnd id.toList), endsPath c = false := by
  intro c hc
  rcases List.mem_append.mp hc with hc | hc
  · have hall : ∀ c ∈ "broadcast/destinations/".toList, endsPath c = false :=
      List.all_iff_forall_prop.mp (by decide)
    exact hall c hc
  · have hmem := Whatwg.mem_of_mem_cleanEnd hc
    simp only [endsPath, Bool.or_eq_false_iff, beq_eq_false_iff_ne]
    constructor
    · rintro rfl
      exact hid.no_query hmem
    · rintro rfl
      exact hid.no_fragment hmem

/-- What is left of the id has no separator, so it is one segment. -/
theorem isSlash_cleanEnd (hbackslash : '\\' ∉ id.toList) :
    ∀ c ∈ cleanEnd id.toList, isSlash c = false := by
  intro c hc
  have hmem := Whatwg.mem_of_mem_cleanEnd hc
  simp only [isSlash, Bool.or_eq_false_iff, beq_eq_false_iff_ne]
  constructor
  · rintro rfl
    exact hid.no_slash hmem
  · rintro rfl
    exact hbackslash hmem

/-- The URL of an id that passes both checks: the join does not fail, and adds three segments to
the directory of the base. -/
theorem join_destination (hbackslash : '\\' ∉ id.toList) (lib : Backend) {base : Url}
    {segments : List String} (hbase : IsDirectory base segments) :
    Whatwg.join lib base ("broadcast/destinations/" ++ id) =
      .ok (destinationUrl base segments (cleanEnd id.toList)) := by
  have hends := endsPath_destination hid
  have hsplit : splitWhere isSlash (destinationReference (cleanEnd id.toList)) =
      ["broadcast".toList, "destinations".toList, cleanEnd id.toList] := by
    show splitWhere isSlash ("broadcast".toList ++ '/' ::
      ("destinations".toList ++ '/' :: cleanEnd id.toList)) = _
    rw [splitWhere_append (List.all_iff_forall_prop.mp (by decide)) (by decide),
      splitWhere_append (List.all_iff_forall_prop.mp (by decide)) (by decide),
      splitWhere_of_forall (isSlash_cleanEnd hid hbackslash)]
  -- The reference starts with a letter and has no colon, so it is relative and has a path.
  have hclass : Whatwg.classify base.scheme ("broadcast/destinations/" ++ id) =
      .relative (destinationReference (cleanEnd id.toList)) := by
    rw [Whatwg.classify, clean_destination]
    rfl
  have hresolve : ∀ segment, Whatwg.resolve base (destinationReference segment) =
      { base with
        path := .segments
          (Whatwg.parsePath base.pathSegments.dropLast (destinationReference segment))
        query := Whatwg.parseQuery (destinationReference segment)
        fragment := Whatwg.parseFragment (destinationReference segment) } := fun _ => rfl
  rw [Whatwg.join, hclass]
  show Except.ok (Whatwg.resolve base _) = _
  rw [hresolve, hbase.dropLast, Whatwg.parsePath_of_forall hends, hsplit,
    Whatwg.parseQuery_of_forall hends, Whatwg.parseFragment_of_forall hends]
  rfl

end

/-! ## One destination -/

/-- A URL of one destination below a base: one more segment, on the origin of the base, and
nothing after it. -/
structure OnDestination (base url : Url) : Prop where
  origin : url.origin = base.origin
  query : url.query = none
  fragment : url.fragment = none
  path : ∃ segment, segment ≠ "" ∧ '/' ∉ segment.toList ∧
    url.pathString = base.pathString ++ "broadcast/destinations/" ++ segment

/-- What is left of the id when it is cleaned names a segment. -/
def namesDestination (id : String) : Bool :=
  !(cleanEnd id.toList).isEmpty && !isDot (cleanEnd id.toList)

/-- The segments of the URL: those of the directory, and what the last segment leaves. -/
theorem pushSegments_destination (segments : List String) (segment : List Char) :
    pushSegments segments ["broadcast".toList, "destinations".toList, segment] =
      if isDoubleDot segment then segments ++ ["broadcast", ""]
      else if isSingleDot segment then segments ++ ["broadcast", "destinations", ""]
      else segments ++ ["broadcast", "destinations", percentEncode inPathSet segment] := by
  have hpushed : pushSegments segments ["broadcast".toList, "destinations".toList, segment] =
      pushSegments (segments ++ ["broadcast"] ++ ["destinations"]) [segment] := rfl
  rw [hpushed, pushSegments]
  split
  · rw [Whatwg.popSegment_concat (by decide), List.append_assoc]
    rfl
  · split <;> rw [List.append_assoc, List.append_assoc] <;> rfl

/-- The path below a directory. -/
theorem pathString_below {base url : Url} {segments : List String}
    (hbase : IsDirectory base segments) {first : String} {more : List String}
    (hpath : url.path = .segments (segments ++ first :: more)) :
    url.pathString = base.pathString ++ (first ++ slashed more) := by
  rw [Whatwg.pathString_segments hpath
    (List.append_ne_nil_of_right_ne_nil _ (List.cons_ne_nil _ _)), Whatwg.slashed_append,
    hbase.pathString, String.append_assoc]
  show _ ++ ("/" ++ first ++ slashed more) = _
  rw [String.append_assoc]

/-- The segments of a destination below `broadcast`, written out as a path. -/
theorem slashed_destination (last : String) :
    "broadcast" ++ slashed ["destinations", last] = "broadcast/destinations/" ++ last := by
  show "broadcast" ++ ("/" ++ "destinations" ++ ("/" ++ last ++ "")) = _
  rw [String.append_empty, ← String.append_assoc, ← String.append_assoc]
  rfl

/-- The URL of a segment is one of a destination exactly when the segment is not lost. -/
theorem onDestination_iff {base : Url} {segments : List String}
    (hbase : IsDirectory base segments) {segment : List Char}
    (hslash : ∀ c ∈ segment, isSlash c = false) :
    OnDestination base (destinationUrl base segments segment) ↔
      segment ≠ [] ∧ isDot segment = false := by
  have hpath : (destinationUrl base segments segment).path = .segments
      (pushSegments segments ["broadcast".toList, "destinations".toList, segment]) := rfl
  have horigin : (destinationUrl base segments segment).origin = base.origin := rfl
  have hnothing : (destinationUrl base segments segment).query = none ∧
      (destinationUrl base segments segment).fragment = none := ⟨rfl, rfl⟩
  generalize destinationUrl base segments segment = url at hpath horigin hnothing
  rw [pushSegments_destination] at hpath
  -- What two paths add to the one of the base is the same.
  have hcancel : ∀ {added other : String}, url.pathString = base.pathString ++ added →
      url.pathString = base.pathString ++ "broadcast/destinations/" ++ other →
        added = "broadcast/destinations/" ++ other := by
    intro added other hadded hother
    rw [hadded, String.append_assoc] at hother
    exact (String.append_right_inj _).mp hother
  have hlast : ∀ {last other : String},
      url.path = .segments (segments ++ ["broadcast", "destinations", last]) →
      url.pathString = base.pathString ++ "broadcast/destinations/" ++ other → last = other := by
    intro last other hpath hother
    have hadded := hcancel (pathString_below hbase hpath) hother
    rw [slashed_destination] at hadded
    exact (String.append_right_inj _).mp hadded
  constructor
  · rintro ⟨-, -, -, other, hne, -, hother⟩
    split at hpath
    · -- A double dot took `destinations` away, and the path is too short.
      have hadded : "broadcast/" = "broadcast/destinations/" ++ other :=
        hcancel (pathString_below hbase hpath) hother
      have hlength := congrArg String.length hadded
      rw [String.length_append] at hlength
      exact absurd hlength (by simp only [show "broadcast/".length = 10 from rfl,
        show "broadcast/destinations/".length = 23 from rfl]; omega)
    · rename_i hdouble
      split at hpath
      · exact absurd (hlast hpath hother).symm hne
      · rename_i hsingle
        refine ⟨?_, ?_⟩
        · rintro rfl
          exact hne (hlast hpath hother).symm
        · rw [isDot, Bool.eq_false_iff.mpr hdouble, Bool.eq_false_iff.mpr hsingle]
          rfl
  · rintro ⟨hne, hdot⟩
    obtain ⟨hsingle, hdouble⟩ := Bool.or_eq_false_iff.mp hdot
    rw [hdouble, hsingle] at hpath
    refine ⟨horigin, hnothing.1, hnothing.2, percentEncode inPathSet segment,
      Whatwg.percentEncode_ne_empty hne, fun hmem => ?_, ?_⟩
    · rcases Whatwg.mem_percentEncode hmem with hescape | ⟨hmem, -⟩
      · exact absurd hescape (by decide)
      · exact absurd (hslash _ hmem) (by decide)
    · rw [pathString_below hbase hpath, slashed_destination, String.append_assoc]

/-! ## Which ids stay -/

/-- The control base of every client that was built has segments. -/
theorem build_control_hasSegments {lib : Backend} {builder : ClientBuilder} {client : Client}
    (h : builder.build lib = .ok client) : HasSegments client.controlBaseUrl.url := by
  simp only [ClientBuilder.build, bind_eq_ok] at h
  obtain ⟨_, -, control, hcontrol, hclient⟩ := h
  cases hclient
  exact parseBaseUrl_hasSegments hcontrol

/-- A call on a destination that `resource_path` accepts goes to one destination below the
control base, if it goes anywhere, exactly when one of these holds: the id has a backslash,
and `plane_urls` refuses the path; or the cleaned id names a segment. -/
theorem destination_confined_iff {lib : Backend} {client : Client}
    (hbase : HasSegments client.controlBaseUrl.url) (operation : Operation) {uuid id : String}
    {options : CallOptions} {requested : Requested}
    (haccepted : operation.request client uuid id options = .ok requested) :
    (∀ urls, planeUrls lib client requested.plane requested.path = .ok urls →
      ∃ url, urls = [url] ∧ OnDestination client.controlBaseUrl.url url) ↔
    (containsChar id '\\' = true ∨ namesDestination id = true) := by
  obtain ⟨hid, hplane, hpath⟩ := Operation.request_eq_ok haccepted
  obtain ⟨segments, hdirectory⟩ := isDirectory_of_base hbase
  rw [hplane, hpath]
  by_cases hbackslash : containsChar id '\\' = true
  · -- The guard rejects the path.
    refine iff_of_true (fun urls hurls => ?_) (.inl hbackslash)
    have hguard := (planeUrls_eq_ok.mp hurls).1
    rw [isRootRelative_destination, hbackslash] at hguard
    cases hguard
  · have hfree : '\\' ∉ id.toList := by
      simpa only [containsChar, List.contains_eq_mem, decide_eq_true_eq] using hbackslash
    have hurls : planeUrls lib client .control ("/broadcast/destinations/" ++ id) =
        .ok [destinationUrl client.controlBaseUrl.url segments (cleanEnd id.toList)] := by
      refine planeUrls_eq_ok.mpr ⟨?_, .cons ?_ .nil⟩
      · rw [isRootRelative_destination, Bool.eq_false_iff.mpr hbackslash]
        rfl
      · rw [pathReference_destination]
        exact join_destination hid hfree lib hdirectory
    have hnames : namesDestination id = true ↔
        cleanEnd id.toList ≠ [] ∧ isDot (cleanEnd id.toList) = false := by
      simp [namesDestination]
    rw [hnames, ← onDestination_iff hdirectory (isSlash_cleanEnd hid hfree), hurls]
    constructor
    · intro hall
      obtain ⟨url, hsingle, hurl⟩ := hall _ rfl
      rw [List.cons.inj hsingle |>.1]
      exact .inr hurl
    · rintro (hcontains | hurl) urls heq
      · exact absurd hcontains hbackslash
      · cases heq
        exact ⟨_, rfl, hurl⟩

/-- A plain id stays on its destination. -/
theorem destination_confined_plain :
    ∃ requested url,
      Operation.delete.request defaultClient "uuid" "dest_1" {} = .ok requested ∧
      planeUrls plainBackend defaultClient requested.plane requested.path = .ok [url] ∧
      OnDestination defaultControlBase.url url := by
  have hiff := @destination_confined_iff plainBackend defaultClient ⟨_, rfl⟩ .delete "uuid"
    "dest_1" {} _ rfl
  obtain ⟨url, hsingle, hurl⟩ := hiff.mpr (.inr (by decide)) _ rfl
  refine ⟨_, url, rfl, ?_, hurl⟩
  rw [← hsingle]
  rfl

/-- Deleting the destination `..` is a request on what is above the destinations. -/
theorem destination_climbs :
    ∃ requested url,
      Operation.delete.request defaultClient "uuid" ".." {} = .ok requested ∧
      planeUrls plainBackend defaultClient requested.plane requested.path = .ok [url] ∧
      url.pathString = "/v1/broadcast/" ∧ ¬ OnDestination defaultControlBase.url url := by
  refine ⟨_, destinationUrl defaultControlBase.url ["v1"] "..".toList, rfl, rfl, by decide, ?_⟩
  have hdirectory : IsDirectory defaultControlBase.url ["v1"] := ⟨.inl rfl⟩
  rw [onDestination_iff hdirectory (List.all_iff_forall_prop.mp (by decide))]
  decide

end TrustedRouter.Proofs.Transport
