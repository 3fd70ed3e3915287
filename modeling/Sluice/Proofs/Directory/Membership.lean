import Sluice.Directory
import Sluice.Proofs.Endpoint.Validity
import Sluice.Proofs.Pool.Removal

open List

namespace Sluice

namespace Announcement

-- An address that a node can have and, unless the node leaves, a weight that it can have too.
def Valid : Announcement → Prop
  | register a w | renew a w => (0 < w ∧ w < UInt32.size) ∧ Nonempty (Endpoint.Location a)
  | deregister a             => Nonempty (Endpoint.Location a)

-- The node with that address is announced, and the announcement is valid.
def Renews (address : String) : Announcement → Prop
  | register a w | renew a w => a = address ∧ Valid (register a w)
  | deregister _             => False

instance : (x : Announcement) → Decidable x.Valid
  | register .. | renew .. => inferInstanceAs (Decidable (_ ∧ _))
  | deregister _           => inferInstanceAs (Decidable (Nonempty _))

instance (address : String) : (x : Announcement) → Decidable (x.Renews address)
  | register .. | renew .. => inferInstanceAs (Decidable (_ ∧ _))
  | deregister _           => inferInstanceAs (Decidable False)

variable {x : Announcement} {a b : String}

theorem Renews.valid (h : x.Renews a) : x.Valid := by
  cases x
  case register     => exact h.right
  case renew        => exact h.right
  case deregister _ => exact h.elim

theorem Renews.ne_deregister (h : x.Renews a) (b : String) : x ≠ .deregister b := by
  rintro rfl
  exact h

theorem Renews.unique (ha : x.Renews a) (hb : x.Renews b) : a = b := by
  cases x
  case register     => exact ha.left.symm.trans hb.left
  case renew        => exact ha.left.symm.trans hb.left
  case deregister _ => exact ha.elim

end Announcement

theorem filter_ne_of_not_mem {as : List String} {a : String} (h : a ∉ as) : as.filter (· ≠ a) = as :=
  filter_eq_self.mpr fun b hb => by simpa using ne_of_mem_of_not_mem hb h

namespace Pool

theorem upsert_addresses (p : Pool) (e : Endpoint) :
    (p.upsert e).2.addresses = if e.address ∈ p.addresses then p.addresses else p.addresses ++ [e.address] := by
  rw [upsert]
  by_cases h : e.address ∈ p.addresses
  case pos =>
    rw [if_pos ((p.contains_iff _).mpr h), if_pos h]
    exact p.renewed_addresses e
  case neg =>
    rw [if_neg (mt (p.contains_iff _).mp h), if_neg h]
    exact p.joined_addresses e

-- Whether the address is new or not, it can be listed last.
theorem upsert_perm {p : Pool} {as : List String} (hn : as.Nodup) (hp : p.addresses ~ as) (e : Endpoint) :
    (p.upsert e).2.addresses ~ as.filter (· ≠ e.address) ++ [e.address] := by
  rw [upsert_addresses]
  split
  case isTrue h =>
    have he : as.erase e.address = as.filter (· ≠ e.address) :=
      (hn.erase_eq_filter _).trans <| filter_congr fun a _ => by grind
    calc p.addresses
      _ ~ as                                       := hp
      _ ~ e.address :: as.filter (· ≠ e.address)   := he ▸ perm_cons_erase (hp.mem_iff.mp h)
      _ ~ as.filter (· ≠ e.address) ++ [e.address] := (perm_append_singleton _ _).symm
  case isFalse h =>
    have he : e.address ∉ as := mt hp.mem_iff.mpr h
    rw [filter_ne_of_not_mem he]
    exact hp.append_right _

theorem location_of_mem {p : Pool} {a : String} (h : a ∈ p.addresses) : Nonempty (Endpoint.Location a) := by
  obtain ⟨n, _, rfl⟩ := mem_map.mp h
  exact ⟨{ n.endpoint with }⟩

end Pool

namespace Directory

-- What happens to a directory: an announcement is heard, the leases that have run out are swept out, or a node
-- of the pool is picked for a call.
inductive Event where
  | hear (x : Announcement) (now : Instant)
  | sweep (now : Instant)
  | select

def step (d : Directory) : Event → Directory
  | .hear x now => d.watch [x] now
  | .sweep now  => (d.expire now).2
  | .select     => { d with pool := d.pool.advance.2 }

-- The directories that events lead to from a pool. The leases are kept in no order of their own: they can be
-- gone through in any, and in another one each time.
inductive Course (p : Pool) (ttl : Duration) : List Event → Directory → Prop
  | start :
    Course p ttl [] (make p ttl)
  | step (e : Event) :
    Course p ttl es d → Course p ttl (es ++ [e]) (d.step e)
  | shuffle {ls : List (String × Instant)} :
    Course p ttl es d → ls ~ d.leases → Course p ttl es { d with leases := ls }

-- The addresses that hold a lease.
def holders (d : Directory) : List String :=
  d.leases.map Prod.fst

-- The directory once these addresses are given up.
def without (d : Directory) (gone : List String) : Directory :=
  { d with pool := d.pool.without gone, leases := d.leases.filter (·.1 ∉ gone) }

-- Every node of the pool was there from the start or holds a lease, and never both.
structure Consistent (d : Directory) : Prop where
  nodup     : (d.statics ++ d.holders).Nodup
  addresses : d.pool.addresses ~ d.statics ++ d.holders

-- Every way in which an event can change a directory.
inductive Steps (d : Directory) : Event → Directory → Prop
  | refused :
    ¬x.Valid → (∀ a, x ≠ .deregister a) →
    Steps d (.hear x now) d
  | reweighed :
    x.Renews e.address → e.address ∈ d.statics →
    Steps d (.hear x now) { d with pool := (d.pool.upsert e).2 }
  | leased :
    x.Renews e.address → e.address ∉ d.statics →
    Steps d (.hear x now)
      { d with pool := (d.pool.upsert e).2, leases := dropLease e.address d.leases ++ [(e.address, now)] }
  | kept :
    a ∈ d.statics →
    Steps d (.hear (.deregister a) now) d
  | left :
    a ∉ d.statics →
    Steps d (.hear (.deregister a) now) (d.without [a])
  | swept :
    Steps d (.sweep now) (d.without (d.expire now).1)
  | selected :
    Steps d .select { d with pool := d.pool.advance.2 }

variable {d d' : Directory} {p : Pool} {ttl : Duration} {a : String} {w : Int} {t now : Instant} {e : Event}
         {x : Announcement} {gone : List String} {es : List Event} {ls : List (String × Instant)}

theorem isStatic_iff (d : Directory) (a : String) : d.isStatic a ↔ a ∈ d.statics := by
  rw [isStatic, contains_iff_mem]

theorem without_holders (d : Directory) (gone : List String) :
    (d.without gone).holders = d.holders.filter (· ∉ gone) := by
  rw [holders, without, holders, filter_map]
  rfl

theorem mem_gone (d : Directory) (now : Instant) :
    a ∈ (d.expire now).1 ↔ ∃ t, (a, t) ∈ d.leases ∧ d.hasRunOut now t := by
  simp [expire]

namespace Consistent

theorem make (hp : p.addresses.Nodup) (ttl : Duration) : (make p ttl).Consistent where
  nodup     := by simpa [Directory.make, holders]
  addresses := by simp [Directory.make, holders]

theorem pool_nodup (h : d.Consistent) : d.pool.addresses.Nodup :=
  h.addresses.nodup_iff.mpr h.nodup

theorem holders_nodup (h : d.Consistent) : d.holders.Nodup :=
  h.nodup.of_append_right

theorem not_static (h : d.Consistent) (ha : a ∈ d.holders) : a ∉ d.statics :=
  fun hs => disjoint_of_nodup_append h.nodup hs ha

theorem lease_unique (h : d.Consistent) {t' : Instant} (ht : (a, t) ∈ d.leases) (ht' : (a, t') ∈ d.leases) :
    t = t' :=
  congrArg Prod.snd <| inj_on_of_nodup_map h.holders_nodup ht ht' rfl

theorem mem_gone (h : d.Consistent) (hl : (a, t) ∈ d.leases) (now : Instant) :
    a ∈ (d.expire now).1 ↔ d.hasRunOut now t := by
  refine (d.mem_gone now).trans ⟨fun ⟨t', ht', hr⟩ => ?_, fun hr => ⟨t, hl, hr⟩⟩
  rwa [h.lease_unique hl ht']

-- Of the leases that are left none is of an address that is given up.
theorem expire_eq (h : d.Consistent) (now : Instant) : (d.expire now).2 = d.without (d.expire now).1 := by
  have hl : d.leases.filter (fun l => !d.hasRunOut now l.2) = d.leases.filter (·.1 ∉ (d.expire now).1) :=
    filter_congr fun (a, t) hl => by simp [h.mem_gone hl]
  rw [without, ← Pool.foldl_remove h.pool_nodup, ← hl]
  rfl

theorem withdraw_eq (h : d.Consistent) (ha : a ∉ d.statics) : d.withdraw a = d.without [a] := by
  simp [withdraw, isStatic_iff, ha, Pool.remove_eq h.pool_nodup, dropLease, Directory.without]

end Consistent

theorem Steps.announce (hr : ∀ b, x.Renews b ↔ a = b ∧ x.Valid)
    (hv : x.Valid ↔ (Endpoint.make a w).toOption.isSome) (hd : ∀ b, x ≠ .deregister b) :
    d.Steps (.hear x now) ((d.announce a w now).toOption.getD d) := by
  cases he : Endpoint.make a w
  case error =>
    rw [he] at hv
    simp only [Directory.announce, he]
    exact .refused (hv.not.mpr nofun) hd
  case ok e =>
    obtain rfl := Endpoint.make_address he
    have hx : x.Renews e.address := (hr _).mpr ⟨rfl, hv.mpr (he ▸ rfl)⟩
    by_cases hs : e.address ∈ d.statics
    case pos =>
      simp only [Directory.announce, he, (d.isStatic_iff _).mpr hs, if_true]
      exact .reweighed hx hs
    case neg =>
      simp only [Directory.announce, he, mt (d.isStatic_iff _).mp hs]
      exact .leased hx hs

theorem Consistent.steps (h : d.Consistent) : (e : Event) → d.Steps e (d.step e)
  | .hear (.register ..) _ | .hear (.renew ..) _ => .announce (fun _ => .rfl) Endpoint.make_isSome.symm nofun
  | .hear (.deregister a) now => by
    change d.Steps _ (d.withdraw a)
    by_cases ha : a ∈ d.statics
    case pos =>
      rw [withdraw, if_pos ((d.isStatic_iff a).mpr ha)]
      exact .kept ha
    case neg =>
      rw [h.withdraw_eq ha]
      exact .left ha
  | .sweep now => by
    rw [step, h.expire_eq]
    exact .swept
  | .select => .selected

namespace Steps

theorem statics_eq (s : d.Steps e d') : d'.statics = d.statics := by
  cases s <;> rfl

theorem ttl_eq (s : d.Steps e d') : d'.ttl = d.ttl := by
  cases s <;> rfl

end Steps

namespace Consistent

theorem shuffle (h : d.Consistent) (hl : ls ~ d.leases) : Consistent { d with leases := ls } :=
  have hh : d.statics ++ ls.map Prod.fst ~ d.statics ++ d.holders := (hl.map _).append_left _
  { nodup     := hh.nodup_iff.mpr h.nodup
    addresses := h.addresses.trans hh.symm }

theorem without (h : d.Consistent) (hg : ∀ a ∈ gone, a ∉ d.statics) : (d.without gone).Consistent := by
  have hs : (d.statics ++ d.holders).filter (· ∉ gone) = d.statics ++ (d.without gone).holders := by
    rw [filter_append, filter_eq_self.mpr (by simpa using fun a ha hga => hg a hga ha), without_holders]
  have ha := h.addresses.filter (· ∉ gone)
  rw [hs, ← Pool.without_addresses] at ha
  exact { nodup := hs ▸ h.nodup.filter _, addresses := ha }

theorem leased (h : d.Consistent) (en : Endpoint) (ha : en.address ∉ d.statics) (now : Instant) :
    Consistent { d with
      pool := (d.pool.upsert en).2, leases := dropLease en.address d.leases ++ [(en.address, now)] } := by
  have hl : d.statics ++ (dropLease en.address d.leases ++ [(en.address, now)]).map Prod.fst =
      (d.statics ++ d.holders).filter (· ≠ en.address) ++ [en.address] := by
    rw [filter_append, filter_ne_of_not_mem ha, append_assoc, map_append, dropLease, holders, filter_map]
    rfl
  have hn : en.address ∉ (d.statics ++ d.holders).filter (· ≠ en.address) := by simp
  exact {
    nodup     := by
      rw [holders, hl, ← concat_eq_append]
      exact .concat hn (h.nodup.filter _)
    addresses := by
      rw [holders, hl]
      exact Pool.upsert_perm h.nodup h.addresses en }

end Consistent

theorem Steps.consistent (s : d.Steps e d') (h : d.Consistent) : d'.Consistent := by
  cases s
  case refused => exact h
  case reweighed en _ hs =>
    have ha : en.address ∈ d.pool.addresses := h.addresses.mem_iff.mpr (mem_append_left _ hs)
    exact { nodup := h.nodup, addresses := by rw [Pool.upsert_addresses, if_pos ha]; exact h.addresses }
  case leased hx hs => exact h.leased _ hs _
  case kept => exact h
  case left hs => exact h.without (by simpa using hs)
  case swept =>
    refine h.without fun a ha => ?_
    have ⟨t, ht, _⟩ := (d.mem_gone _).mp ha
    exact h.not_static (mem_map_of_mem ht)
  case selected => exact { nodup := h.nodup, addresses := d.pool.advance_addresses ▸ h.addresses }

namespace Course

theorem consistent (c : Course p ttl es d) (hp : p.addresses.Nodup) : d.Consistent := by
  induction c
  case start           => exact .make hp ttl
  case step e _ hi     => exact (hi.steps e).consistent hi
  case shuffle _ hl hi => exact hi.shuffle hl

theorem statics_eq (c : Course p ttl es d) (hp : p.addresses.Nodup) : d.statics = p.addresses := by
  induction c
  case start           => rfl
  case step e c hi     => exact ((c.consistent hp).steps e).statics_eq.trans hi
  case shuffle _ _ hi  => exact hi

theorem ttl_eq (c : Course p ttl es d) (hp : p.addresses.Nodup) : d.ttl = ttl := by
  induction c
  case start           => rfl
  case step e c hi     => exact ((c.consistent hp).steps e).ttl_eq.trans hi
  case shuffle _ _ hi  => exact hi

-- Events can follow one another without the leases being reordered.
theorem append (c : Course p ttl es d) (after : List Event) :
    Course p ttl (es ++ after) (after.foldl Directory.step d) := by
  induction after generalizing es d
  case nil             => simpa using c
  case cons e after hi => simpa using hi (c.step e)

end Course

end Directory

end Sluice
