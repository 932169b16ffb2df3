import TrustedRouter.Telemetry.Classify

/-!
# `TrustedRouter.Proofs.Telemetry.Classify`: texts do not decide over types

The text of the outermost link of an error can hold a URL that the caller chose. So can any text
of the chain, as far as the SDK knows. Two facts keep such texts from deciding the class of an
error. The first pass of the classifier is a function of the kinds of the links
(`typedPass_congr`), and it ends at the first decisive kind (`typedPass_of_first`). The second
pass, which reads texts, is not given the outermost link.

`classifyChain_typed` is the two together.
-/

set_option autoImplicit false

namespace TrustedRouter.Proofs.Telemetry

open TrustedRouter.Telemetry

/-- The class that a link decides by its type. -/
def decidedBy (connect : Bool) (link : ErrorLink) : Option ErrorClass :=
  link.ioKind.bind (IoErrorKind.decides connect)

/-- A link of the first pass decides, or it is passed over. The pass stops at the maximal depth,
which `hdepth` keeps away. -/
theorem typedPass_cons {connect sawIo : Bool} {depth : Nat} (hdepth : depth < maxDepth)
    (link : ErrorLink) (rest : List ErrorLink) :
    typedPass connect depth sawIo (link :: rest) =
      match decidedBy connect link with
      | some errorClass => .inl errorClass
      | none => typedPass connect (depth + 1) (sawIo || link.ioKind.isSome) rest := by
  rw [typedPass, if_neg (Nat.not_le_of_lt hdepth), decidedBy]
  cases link.ioKind with
  | none => simp
  | some kind => cases hkind : kind.decides connect <;> simp [hkind]

/-- The first pass reads the kinds of the links and nothing else, so the messages of two chains
may differ. -/
theorem typedPass_congr {chain chain' : List ErrorLink} (connect : Bool)
    (h : chain.map ErrorLink.ioKind = chain'.map ErrorLink.ioKind) (depth : Nat)
    (sawIo : Bool) :
    typedPass connect depth sawIo chain = typedPass connect depth sawIo chain' := by
  induction chain generalizing chain' depth sawIo with
  | nil =>
      obtain rfl : chain' = [] := List.map_eq_nil_iff.mp h.symm
      rfl
  | cons link rest ih =>
      obtain ⟨link', rest', rfl, hlink, hrest⟩ := List.map_eq_cons_iff.mp h.symm
      by_cases hdepth : depth < maxDepth
      · rw [typedPass_cons hdepth, typedPass_cons hdepth, decidedBy, decidedBy, hlink,
          ih hrest.symm]
      · -- Past the depth limit neither chain is read any further.
        rw [typedPass, typedPass, if_pos (Nat.le_of_not_lt hdepth),
          if_pos (Nat.le_of_not_lt hdepth)]

/-- The first pass ends at the first link that decides. -/
theorem typedPass_of_first {connect : Bool} {before : List ErrorLink} {link : ErrorLink}
    {errorClass : ErrorClass} (hlink : decidedBy connect link = some errorClass)
    (hbefore : ∀ earlier ∈ before, decidedBy connect earlier = none) {depth : Nat}
    (hdepth : depth + before.length < maxDepth) (sawIo : Bool) (after : List ErrorLink) :
    typedPass connect depth sawIo (before ++ link :: after) = .inl errorClass := by
  induction before generalizing depth sawIo with
  | nil =>
      have hhere : depth < maxDepth := hdepth
      rw [List.nil_append, typedPass_cons hhere, hlink]
  | cons earlier before ih =>
      obtain ⟨hearlier, hrest⟩ := List.forall_mem_cons.mp hbefore
      rw [List.length_cons] at hdepth
      rw [List.cons_append, typedPass_cons (by omega), hearlier]
      exact ih hrest (by omega) _

/-- The text of the outermost link is not read at all. -/
theorem classifyChain_congr {top top' : ErrorLink} (h : top.ioKind = top'.ioKind)
    (sources : List ErrorLink) (connect : Bool) :
    classifyChain top sources connect = classifyChain top' sources connect := by
  have hkinds : (top :: sources).map ErrorLink.ioKind = (top' :: sources).map ErrorLink.ioKind := by
    rw [List.map_cons, List.map_cons, h]
  rw [classifyChain, classifyChain, typedPass_congr connect hkinds 0 false]

/-- Where one of the first `n` links decides, there is a first one that does. -/
theorem exists_first_decided {connect : Bool} {chain : List ErrorLink} {n : Nat}
    (h : ∃ link ∈ chain.take n, (decidedBy connect link).isSome = true) :
    ∃ before link after, chain = before ++ link :: after ∧ before.length < n ∧
      (∀ earlier ∈ before, decidedBy connect earlier = none) ∧
      (decidedBy connect link).isSome = true := by
  obtain ⟨link, hfind⟩ := Option.isSome_iff_exists.mp (List.find?_isSome.mpr h)
  obtain ⟨hlink, before, after, hsplit, hbefore⟩ := List.find?_eq_some_iff_append.mp hfind
  refine ⟨before, link, after ++ chain.drop n, ?_, ?_, ?_, hlink⟩
  · rw [← List.cons_append, ← List.append_assoc, ← hsplit, List.take_append_drop]
  · have hlength := congrArg List.length hsplit
    simp only [List.length_take, List.length_append, List.length_cons] at hlength
    omega
  · intro earlier hearlier
    simpa using hbefore earlier hearlier

/-- The outermost text is not read. Where one of the first eight links carries a decisive kind,
no text is: every chain with the same kinds has the class of the first such link. -/
theorem classifyChain_typed (top : ErrorLink) (sources : List ErrorLink) (connect : Bool) :
    (∀ message, classifyChain { top with message } sources connect =
      classifyChain top sources connect) ∧
    ((∃ link ∈ (top :: sources).take maxDepth, (decidedBy connect link).isSome = true) →
      ∃ before link after errorClass, top :: sources = before ++ link :: after ∧
        before.length < maxDepth ∧ (∀ earlier ∈ before, decidedBy connect earlier = none) ∧
        decidedBy connect link = some errorClass ∧
        ∀ top' sources', (top' :: sources').map ErrorLink.ioKind =
            (top :: sources).map ErrorLink.ioKind →
          classifyChain top' sources' connect = errorClass) := by
  constructor
  · intro message
    exact classifyChain_congr rfl sources connect
  · intro h
    obtain ⟨before, link, after, hsplit, hlength, hbefore, hlink⟩ := exists_first_decided h
    obtain ⟨errorClass, hclass⟩ := Option.isSome_iff_exists.mp hlink
    refine ⟨before, link, after, errorClass, hsplit, hlength, hbefore, hclass, ?_⟩
    intro top' sources' hkinds
    rw [classifyChain, typedPass_congr connect hkinds 0 false, hsplit,
      typedPass_of_first hclass hbefore (by omega) false after]

/-- A refused connection below a text that names two other classes. -/
theorem classifyChain_typed_refused :
    ∃ before link after errorClass,
      [(⟨"error sending request for url (https://host/tls/proxy)", none⟩ : ErrorLink),
        ⟨"dns error", some .connectionRefused⟩] = before ++ link :: after ∧
      before.length < maxDepth ∧ (∀ earlier ∈ before, decidedBy true earlier = none) ∧
      decidedBy true link = some errorClass ∧
      ∀ top' sources', (top' :: sources').map ErrorLink.ioKind =
          [none, some .connectionRefused] →
        classifyChain top' sources' true = errorClass :=
  (classifyChain_typed ⟨"error sending request for url (https://host/tls/proxy)", none⟩
    [⟨"dns error", some .connectionRefused⟩] true).2
    ⟨⟨"dns error", some .connectionRefused⟩, by decide, rfl⟩

end TrustedRouter.Proofs.Telemetry
