import Sluice.Proofs.Gateway.Accepted
import Sluice.Proofs.Headers
import Sluice.Proofs.Transport.Target

open List

namespace Sluice

-- The text is a list with that separator in it, and `part` is one of the elements.
def IsElement (sep : Char) (part text : List Char) : Prop :=
  ∃ parts, [sep].intercalate parts = text ∧ (∀ p ∈ parts, sep ∉ p) ∧ part ∈ parts

theorem splitAtEach_eq_splitOn (sep : Char) (cs : List Char) : splitAtEach sep cs = cs.splitOn sep := by
  induction cs
  case nil => rfl
  case cons c cs hi =>
    rw [splitAtEach, hi, splitOn_cons_eq_if_modifyHead]
    by_cases h : c = sep
    case pos => simp [h]
    case neg =>
      cases hs : cs.splitOn sep
      case nil  => exact absurd hs (splitOn_ne_nil _ _)
      case cons => simp [h]

theorem sep_not_mem_of_mem_splitAtEach {sep : Char} {part cs : List Char} (h : part ∈ splitAtEach sep cs) :
    sep ∉ part := by
  induction cs generalizing part
  case nil => simp_all [splitAtEach]
  case cons c cs hi =>
    rw [splitAtEach] at h
    by_cases hc : c = sep
    case pos =>
      rw [if_pos hc, mem_cons] at h
      cases h
      case inl h => simp [h]
      case inr h => exact hi h
    case neg =>
      rw [if_neg hc] at h
      split at h
      case h_1 => simpa [mem_singleton.mp h] using Ne.symm hc
      case h_2 p ps hs =>
        have hp : ∀ q ∈ p :: ps, sep ∉ q := fun q hq => hi (hs ▸ hq)
        cases mem_cons.mp h
        case inl h => simpa [h, Ne.symm hc] using hp p mem_cons_self
        case inr h => exact hp part (mem_cons_of_mem p h)

theorem mem_splitAtEach {sep : Char} {part text : List Char} :
    part ∈ splitAtEach sep text ↔ IsElement sep part text := by
  constructor
  case mp =>
    intro h
    refine ⟨splitAtEach sep text, ?_, fun _ => sep_not_mem_of_mem_splitAtEach, h⟩
    rw [splitAtEach_eq_splitOn, intercalate_splitOn]
  case mpr =>
    rintro ⟨parts, rfl, hs, hp⟩
    rwa [splitAtEach_eq_splitOn, splitOn_intercalate sep hs (ne_nil_of_mem hp)]

theorem IsElement.subset {sep : Char} {part text : List Char} (h : IsElement sep part text) : part ⊆ text := by
  obtain ⟨parts, rfl, _, hp⟩ := h
  have ⟨i, hi⟩ := getElem?_of_mem hp
  have hm : part ∈ parts.intersperse [sep] := mem_of_getElem? (getElem?_intersperse_two_mul.trans hi)
  exact fun c hc => mem_flatten.mpr ⟨part, hm, hc⟩

theorem toLower_of_not_isUpper {c : Char} (h : ¬c.isUpper) : c.toLower = c := by
  rw [Char.toLower, dif_neg]
  simpa [Char.isUpper] using h

namespace Headers

-- The names of a message that was read: they are no other texts than names can be, and in lower case.
def WellNamed (hs : Headers) : Prop :=
  ∀ p ∈ hs, Transport.headerName? p.1.toList = some p.1

-- One of the names in a list with commas is this one, in any case and with blanks around it or not.
def Lists (text : List Char) (name : String) : Prop :=
  ∃ part spelling, IsElement ',' part text ∧ Padded spelling part ∧ spelling.map Char.toLower = name.toList

-- The message says that headers of that name belong to the connection it came over.
def Listed (hs : Headers) (name : String) : Prop :=
  ∃ v text, ("connection", v) ∈ hs ∧ Spells v text ∧ Lists text name

-- Headers of that name belong to the connection: in any message, or in this one.
def Scoped (hs : Headers) (name : String) : Prop :=
  HopByHop name ∨ hs.Listed name

end Headers

namespace Transport

variable {c d : Char} {cs : List Char} {name : String} {hs : Headers}

theorem toLower_of_headerChar? (h : headerChar? c = some d) : c.toLower = d := by
  rw [headerChar?] at h
  split at h
  case isTrue => exact Option.some.inj h
  case isFalse hc =>
    split at h <;> cases h
    refine toLower_of_not_isUpper fun hu => hc ?_
    simp [Char.isAlphanum, Char.isAlpha, hu]

theorem headerChar?_of_toLower (hd : headerChar? d = some d) (h : c.toLower = d) : headerChar? c = some d := by
  by_cases hc : c.isUpper
  case pos => rw [headerChar?, if_pos (by simp [Char.isAlphanum, Char.isAlpha, hc]), h]
  case neg => rwa [← toLower_of_not_isUpper hc, h]

theorem headerName?_eq_some :
    headerName? cs = some name ↔ cs ≠ [] ∧ Forall₂ (headerChar? · = some ·) cs name.toList := by
  cases cs
  case nil => simp [headerName?]
  case cons c cs =>
    simp only [headerName?, isEmpty_cons, Bool.false_eq_true, if_false, Option.map_eq_some_iff, mapM_eq_some, ne_eq,
      reduceCtorEq, not_false_eq_true, true_and]
    constructor
    case mp  => rintro ⟨ds, hd, rfl⟩; rwa [String.toList_ofList]
    case mpr => exact fun h => ⟨_, h, String.ofList_toList⟩

-- Of the spellings of a name all are read as it that differ from it in case alone.
theorem headerName?_iff (hn : headerName? name.toList = some name) :
    headerName? cs = some name ↔ cs.map Char.toLower = name.toList := by
  have ⟨hne, hf⟩ := headerName?_eq_some.mp hn
  rw [headerName?_eq_some]
  constructor
  case mp =>
    rintro ⟨_, h⟩
    rw [← forall₂_eq_eq_eq, forall₂_map_left_iff]
    exact h.imp fun _ _ => toLower_of_headerChar?
  case mpr =>
    intro h
    refine ⟨fun hc => hne (by rw [← h, hc, map_nil]), ?_⟩
    have hd : ∀ d ∈ name.toList, headerChar? d = some d := forall₂_same.mp hf
    rw [← h, forall₂_map_right_iff, forall₂_same]
    exact fun c hc => headerChar?_of_toLower (hd _ (h ▸ mem_map_of_mem hc)) rfl

-- A name has no blanks in it, so that those around it are told from it.
theorem not_blank_of_headerName? (hn : headerName? name.toList = some name) (h : cs.map Char.toLower = name.toList) :
    ∀ c ∈ cs, c ≠ ' ' ∧ c ≠ '\t' := by
  have hd : ∀ d ∈ name.toList, headerChar? d = some d := forall₂_same.mp (headerName?_eq_some.mp hn).right
  intro c hc
  have hl := hd _ (h ▸ mem_map_of_mem hc)
  constructor <;> rintro rfl <;> exact absurd hl (by decide)

theorem mem_connectionNames (hn : headerName? name.toList = some name) :
    name ∈ connectionNames hs ↔ hs.Listed name := by
  simp only [connectionNames, mem_flatMap, mem_filterMap, mem_splitAtEach, headerName?_iff hn, Headers.visible?_eq_some,
    Headers.mem_values]
  constructor
  case mp =>
    rintro ⟨text, ⟨v, hv, ht⟩, part, he, hl⟩
    exact ⟨v, text, hv, ht, part, _, he, padded_trimBlank fun c hc => ht.visible c (he.subset hc), hl⟩
  case mpr =>
    rintro ⟨v, text, hv, ht, part, spelling, he, hp, hl⟩
    have hs : ∀ c ∈ spelling, IsVisible c := fun c hc => ht.visible c (he.subset (hp.subset hc))
    have hb := not_blank_of_headerName? hn hl
    exact ⟨text, ⟨v, hv, ht⟩, part, he, by rw [hp.trimBlank_eq hs hb, hl]⟩

theorem isDropped_of_scoped (hn : headerName? name.toList = some name) (h : hs.Scoped name) : isDropped hs name := by
  simp only [isDropped, Bool.or_eq_true, contains_iff_mem, Headers.isHopByHop_iff, mem_connectionNames hn]
  exact h.elim (fun hf => .inl (.inl hf)) .inr

theorem not_scoped_of_mem_forwarded (hw : hs.WellNamed) {p : String × Bytes} (hp : p ∈ forwarded hs) :
    ¬hs.Scoped p.1 := by
  have ⟨hm, hd⟩ := mem_filter.mp hp
  intro h
  simp [isDropped_of_scoped (hw p hm) h] at hd

theorem request_eq_ok {node : Endpoint} {call : Call} {out : Outgoing} (h : request node call = .ok out) :
    out.headers = outgoingHeaders call.metadata := by
  rw [request] at h
  split at h <;> cases h
  rfl

end Transport

namespace Gateway

theorem mem_relay {reply : Response} {p : String × Bytes} :
    p ∈ (relay reply).headers ↔ p ∈ reply.headers ∧ ¬Headers.HopByHop p.1 ∧ p.1 ≠ "content-length" := by
  simp [relay, ← Headers.isHopByHop_iff]

-- What a request says of its connection is kept from the nodes. Of what a node's reply says only the names that are
-- always meant are kept from the client: a header that the reply itself lists crosses with all others.
theorem scoped_relayed_iff {req : Request} {limit : Nat} {call : Call} (hw : req.headers.WellNamed)
    (ha : req.accept limit = .ok call) (reply : Response) :
    (∀ node out, Transport.request node call = .ok out → ∃ passed, passed <+ req.headers ∧
      out.headers = passed ++ [("content-type", Bytes.ofString "application/json")] ∧
      ∀ p ∈ passed, ¬req.headers.Scoped p.1) ∧
    (∀ p ∈ reply.headers, p ∈ (relay reply).headers ↔ ¬Headers.HopByHop p.1 ∧ p.1 ≠ "content-length") ∧
    ((∀ p ∈ (relay reply).headers, ¬reply.headers.Scoped p.1) ↔
      ∀ p ∈ reply.headers, reply.headers.Listed p.1 → Headers.HopByHop p.1 ∨ p.1 = "content-length") := by
  have hm : call.metadata = req.headers := Request.metadata_of_readCall (Request.readCall_of_accept ha)
  refine ⟨fun node out ho => ?_, fun p hp => ?_, ?_⟩
  · refine ⟨Transport.forwarded call.metadata, hm ▸ filter_sublist, Transport.request_eq_ok ho, fun p hp => ?_⟩
    rw [hm] at hp
    exact Transport.not_scoped_of_mem_forwarded hw hp
  · rw [mem_relay, and_iff_right hp]
  · simp only [mem_relay, Headers.Scoped]
    grind

-- A message with a header of its own connection, which it lists in another case than it is spelled in.
def sessionHeaders : Headers :=
  [("connection", Bytes.ofString "close, X-Session"), ("x-session", Bytes.ofString "abc"),
   ("x-request-id", Bytes.ofString "42")]

def sessionRequest : Request :=
  ⟨"POST", "/UserService/GetById", sessionHeaders, []⟩

def sessionCall : Call :=
  ⟨"/UserService/GetById", .null, sessionHeaders⟩

def sessionNode : Endpoint :=
  ⟨"http://s:1", 7, "http".toList, "s:1".toList, ⟨['/'], none⟩, by decide, by decide, by decide⟩

def sessionReply : Response :=
  ⟨200, sessionHeaders, []⟩

theorem sessionHeaders_wellNamed : sessionHeaders.WellNamed := by
  unfold Headers.WellNamed
  decide

theorem sessionHeaders_listed : sessionHeaders.Listed "x-session" :=
  (Transport.mem_connectionNames (by decide)).mp (by decide)

theorem accept_sessionRequest : sessionRequest.accept 1024 = .ok sessionCall := by rfl

theorem request_sessionCall : ∃ out, Transport.request sessionNode sessionCall = .ok out :=
  ⟨_, by rfl⟩

theorem mem_relay_sessionReply : ("x-session", Bytes.ofString "abc") ∈ (relay sessionReply).headers := by
  decide

-- The same headers come in with a request and with a reply.
theorem scoped_relayed_iff_session :
    sessionHeaders.WellNamed ∧ sessionRequest.accept 1024 = .ok sessionCall ∧
    (∃ out, Transport.request sessionNode sessionCall = .ok out ∧ ("x-session", Bytes.ofString "abc") ∉ out.headers) ∧
    ("x-session", Bytes.ofString "abc") ∈ (relay sessionReply).headers := by
  have ⟨hq, hr, _⟩ := scoped_relayed_iff sessionHeaders_wellNamed accept_sessionRequest sessionReply
  have ⟨out, ho⟩ := request_sessionCall
  have ⟨passed, _, he, hp⟩ := hq sessionNode out ho
  refine ⟨sessionHeaders_wellNamed, accept_sessionRequest, ⟨out, ho, fun hm => ?_⟩, ?_⟩
  · rw [he, mem_append] at hm
    exact hm.elim (fun hm => hp _ hm (.inr sessionHeaders_listed)) (by decide)
  · exact (hr _ (by decide)).mpr ⟨by decide, by decide⟩

theorem not_all_withheld :
    ¬ ∀ (req : Request) (limit : Nat) (call : Call) (node : Endpoint) (out : Outgoing) (reply : Response),
      req.headers.WellNamed → reply.headers.WellNamed → req.accept limit = .ok call →
      Transport.request node call = .ok out →
      (∀ p ∈ Transport.forwarded call.metadata, ¬req.headers.Scoped p.1) ∧
        ∀ p ∈ (relay reply).headers, ¬reply.headers.Scoped p.1 := by
  intro h
  have ⟨out, ho⟩ := request_sessionCall
  have ⟨_, hr⟩ := h sessionRequest 1024 sessionCall sessionNode out sessionReply sessionHeaders_wellNamed
    sessionHeaders_wellNamed accept_sessionRequest ho
  exact hr _ mem_relay_sessionReply (.inr sessionHeaders_listed)

end Gateway

end Sluice
