import Sluice.Proofs.Transport.Connection

open List

namespace Sluice

namespace Headers

variable {hs others : Headers} {name other : String} {v : Bytes}

-- Headers of that name go on to a node with the message. The others belong to a connection, or to the request that
-- carries the message to the node.
def Passes (hs : Headers) (name : String) : Prop :=
  ¬hs.Scoped name ∧ name ∉ ["host", "content-length", "content-type"]

theorem values_append : values (hs ++ others) name = hs.values name ++ others.values name :=
  filterMap_append

theorem values_singleton_self : values [(name, v)] name = [v] := by
  simp [values]

theorem values_singleton_ne (h : other ≠ name) : values [(other, v)] name = [] := by
  simp [values, h]

-- Headers are kept or left out by their names, so that the values of one name stay together.
theorem values_filter (p : String → Bool) :
    values (hs.filter fun header => p header.1) name = if p name then hs.values name else [] := by
  rw [values, filterMap_filter]
  split
  case isTrue h  => exact filterMap_congr fun header _ => by grind
  case isFalse h => exact filterMap_eq_nil_iff.mpr fun header _ => by grind

theorem WellNamed.values_eq_nil (hw : hs.WellNamed) (hn : Transport.headerName? name.toList ≠ some name) :
    hs.values name = [] :=
  eq_nil_iff_forall_not_mem.mpr fun _ hv => hn (hw _ (mem_values.mp hv))

end Headers

namespace Transport

variable {hs : Headers} {name : String} {node : Endpoint} {call : Call} {target : Uri}

theorem isDropped_iff (hn : headerName? name.toList = some name) : isDropped hs name ↔ ¬hs.Passes name := by
  simp only [isDropped, Bool.or_eq_true, contains_iff_mem, Headers.isHopByHop_iff, mem_connectionNames hn,
    Headers.Passes, Headers.Scoped]
  tauto

theorem forwarded_values (hs : Headers) (name : String) :
    (forwarded hs).values name = if isDropped hs name then [] else hs.values name := by
  have hf : (forwarded hs).values name = if !isDropped hs name then hs.values name else [] :=
    Headers.values_filter (!isDropped hs ·)
  rw [hf]
  cases isDropped hs name <;> rfl

theorem forwarded_values_of_passes (hw : hs.WellNamed) (h : hs.Passes name) :
    (forwarded hs).values name = hs.values name := by
  rw [forwarded_values]
  split
  case isFalse => rfl
  case isTrue hd =>
    refine (hw.values_eq_nil fun hn => ?_).symm
    exact (isDropped_iff hn).mp hd h

theorem forwarded_values_of_not_passes (hw : hs.WellNamed) (h : ¬hs.Passes name) :
    (forwarded hs).values name = [] := by
  rw [forwarded_values]
  split
  case isTrue     => rfl
  case isFalse hd => exact hw.values_eq_nil fun hn => hd ((isDropped_iff hn).mpr h)

theorem not_passes_contentType (hs : Headers) : ¬hs.Passes "content-type" :=
  fun h => h.right (by decide)

-- A request to a node has the headers of the call that go on with it, each name with all its values in their order, and
-- says of itself that it is JSON. It has no others.
theorem request_values (hw : call.metadata.WellNamed) (ht : callUri node call.method = .ok target) :
    ∃ out, request node call = .ok out ∧
      (∀ connection, dispatch connection node call = outcome node (connection node out)) ∧
      out.headers.values "content-type" = [Bytes.ofString "application/json"] ∧
      (∀ name, call.metadata.Passes name → out.headers.values name = call.metadata.values name) ∧
      ∀ name ≠ "content-type", ¬call.metadata.Passes name → out.headers.values name = [] := by
  have hr : request node call =
      .ok ⟨target, outgoingHeaders call.metadata, Bytes.ofString call.payload.render⟩ := by
    rw [request, ht]
  refine ⟨_, hr, fun connection => by rw [dispatch, hr], ?_, fun name hp => ?_, fun name hne hp => ?_⟩ <;>
    rw [outgoingHeaders, Headers.values_append]
  · rw [forwarded_values_of_not_passes hw (not_passes_contentType _), Headers.values_singleton_self, nil_append]
  · have hne : "content-type" ≠ name := fun he => not_passes_contentType _ (he ▸ hp)
    rw [forwarded_values_of_passes hw hp, Headers.values_singleton_ne hne, append_nil]
  · rw [forwarded_values_of_not_passes hw hp, Headers.values_singleton_ne hne.symm, append_nil]

-- Two lists of the connection's own headers, with blanks, an empty element and capitals in them. Other headers belong
-- to the connection without being listed.
def tracedHeaders : Headers :=
  [("connection", Bytes.ofString "close, X-Session"), ("x-trace", Bytes.ofString "1"),
    ("te", Bytes.ofString "trailers"),
   ("connection", Bytes.ofString ",\tX-Hop ,"), ("x-session", Bytes.ofString "abc"), ("x-trace", Bytes.ofString "2"),
   ("x-hop", Bytes.ofString "n"), ("keep-alive", Bytes.ofString "timeout=5"), ("host", Bytes.ofString "g"),
   ("content-type", Bytes.ofString "text/plain")]

def tracedCall : Call :=
  ⟨"/UserService/GetById", .null, tracedHeaders⟩

theorem tracedHeaders_passes : tracedHeaders.Passes "x-trace" ∧ ¬tracedHeaders.Passes "x-hop" := by
  have ht : headerName? "x-trace".toList = some "x-trace" := by decide
  have hh : headerName? "x-hop".toList = some "x-hop" := by decide
  exact ⟨by_contra fun h => absurd ((isDropped_iff ht).mpr h) (by decide), (isDropped_iff hh).mp (by decide)⟩

theorem request_values_traced : tracedHeaders.WellNamed ∧ ∃ out, request Gateway.sessionNode tracedCall = .ok out ∧
    out.headers.values "content-type" = [Bytes.ofString "application/json"] ∧
    out.headers.values "x-trace" = [Bytes.ofString "1", Bytes.ofString "2"] ∧
    out.headers.values "x-hop" = [] ∧ out.headers.values "te" = [] ∧ out.headers.values "keep-alive" = [] := by
  have hw : tracedCall.metadata.WellNamed := by
    unfold Headers.WellNamed
    decide
  have hu : ∃ target, callUri Gateway.sessionNode tracedCall.method = .ok target := ⟨_, by rfl⟩
  have ⟨_, ht⟩ := hu
  have ⟨out, hr, _, hc, hk, hd⟩ := request_values hw ht
  have ⟨ht, hh⟩ := tracedHeaders_passes
  have hf {name : String} (hn : Headers.HopByHop name) : ¬tracedHeaders.Passes name := fun h => h.left (.inl hn)
  exact ⟨hw, out, hr, hc, hk "x-trace" ht, hd "x-hop" (by decide) hh, hd "te" (by decide) (hf (by decide)),
    hd "keep-alive" (by decide) (hf (by decide))⟩

end Transport

end Sluice
