import Sluice.Proofs.Directory.Membership
import Sluice.Proofs.Pool.Callers

open List

namespace Sluice.Directory

-- When the event renews the lease of that address, if it does.
def Event.renewal? (a : String) : Event → Option Instant
  | hear x now       => if x.Renews a then some now else none
  | sweep _ | select => none

-- What the event makes of the lease of an address that was not there from the start. A lease is the time of its
-- renewal.
def Event.onLease (ttl : Duration) (a : String) (lease : Option Instant) : Event → Option Instant
  | hear (.deregister b) _ => if b = a then none else lease
  | hear x now             => (renewal? a (hear x now)).or lease
  | sweep now              => lease.filter (now < · + ttl.nanos)
  | select                 => lease

def lastRenewal? (a : String) (es : List Event) : Option Instant :=
  (es.filterMap (Event.renewal? a)).getLast?

-- The lease that the events leave to an address that was not there from the start.
def lease? (ttl : Duration) (a : String) (es : List Event) : Option Instant :=
  es.foldl (Event.onLease ttl a) none

variable {d d' : Directory} {p : Pool} {ttl : Duration} {a : String} {t now : Instant} {e : Event}
         {x : Announcement} {es : List Event} {lease : Option Instant}

theorem lastRenewal?_snoc (a : String) (es : List Event) (e : Event) :
    lastRenewal? a (es ++ [e]) = (e.renewal? a).or (lastRenewal? a es) := by
  rw [lastRenewal?, filterMap_append, getLast?_append, lastRenewal?]
  cases h : e.renewal? a <;> simp [h]

theorem lease?_snoc (ttl : Duration) (a : String) (es : List Event) (e : Event) :
    lease? ttl a (es ++ [e]) = e.onLease ttl a (lease? ttl a es) := by
  rw [lease?, foldl_append]
  rfl

theorem onLease_hear (hx : ∀ b, x ≠ .deregister b) :
    Event.onLease ttl a lease (.hear x now) = (Event.renewal? a (.hear x now)).or lease := by
  cases x
  case register     => rfl
  case renew        => rfl
  case deregister b => exact (hx b rfl).elim

-- A lease that an event leaves was begun by this event or was there before it.
theorem onLease_eq_some (h : e.onLease ttl a lease = some t) : (e.renewal? a).or lease = some t := by
  cases e
  case hear x now =>
    cases x
    case register     => exact h
    case renew        => exact h
    case deregister b => simp_all [Event.onLease, Event.renewal?, Announcement.Renews]
  case sweep now => simp_all [Event.onLease, Event.renewal?, Option.filter_eq_some_iff]
  case select => exact h

theorem lastRenewal?_of_lease? (h : lease? ttl a es = some t) : lastRenewal? a es = some t := by
  induction es using reverseRecOn generalizing t
  case nil => cases h
  case append_singleton es e hi =>
    rw [lease?_snoc] at h
    replace h := onLease_eq_some h
    rw [lastRenewal?_snoc]
    cases hr : e.renewal? a
    case none   => rw [hr] at h; exact hi h
    case some _ => rw [hr] at h; exact h

theorem hasRunOut_iff (ht : 0 < d.ttl.nanos) : d.hasRunOut now t ↔ t + d.ttl.nanos ≤ now := by
  rw [hasRunOut, decide_eq_true_iff]
  refine ⟨fun h => ?_, fun h => Nat.le_sub_of_add_le' h⟩
  have hn : t < now := Nat.lt_of_sub_pos (ht.trans_le h)
  exact (Nat.le_sub_iff_add_le' hn.le).mp h

-- Every step does to a lease what its event says.
theorem Steps.mem_leases (s : d.Steps e d') (h : d.Consistent) (ht : 0 < d.ttl.nanos) (ha : a ∉ d.statics)
    (hl : ∀ t, (a, t) ∈ d.leases ↔ lease = some t) (t : Instant) :
    (a, t) ∈ d'.leases ↔ e.onLease d.ttl a lease = some t := by
  cases s
  case refused hx hd =>
    have hr : ¬Announcement.Renews a _ := mt Announcement.Renews.valid hx
    rw [onLease_hear hd, Event.renewal?, if_neg hr]
    exact hl t
  case reweighed x now en hx hs =>
    have hr : ¬x.Renews a := fun hr => ha (hr.unique hx ▸ hs)
    rw [onLease_hear hx.ne_deregister, Event.renewal?, if_neg hr]
    exact hl t
  case leased x now en hx hs =>
    rw [onLease_hear hx.ne_deregister, Event.renewal?]
    by_cases he : a = en.address
    case pos => simp [he, hx, dropLease, eq_comm]
    case neg =>
      have hr : ¬x.Renews a := fun hr => he (hr.unique hx)
      simpa [hr, he, dropLease] using hl t
  case kept hs =>
    rw [Event.onLease, if_neg (ne_of_mem_of_not_mem hs ha)]
    exact hl t
  case left b now hs =>
    by_cases hb : b = a
    case pos => simp [Event.onLease, without, hb]
    case neg => simpa [Event.onLease, without, hb, eq_comm] using hl t
  case swept now =>
    have hf : (a, t) ∈ (d.without (d.expire now).1).leases ↔ (a, t) ∈ d.leases ∧ now < t + d.ttl.nanos := by
      rw [without, mem_filter, decide_eq_true_iff]
      refine and_congr_right fun hm => ?_
      rw [h.mem_gone hm, hasRunOut_iff ht, not_le]
    rw [hf, hl t, Event.onLease, Option.filter_eq_some_iff, decide_eq_true_iff]
  case selected => exact hl t

theorem Course.mem_leases (c : Course p ttl es d) (hp : p.addresses.Nodup) (ht : 0 < ttl.nanos) (ha : a ∉ p.addresses)
    (t : Instant) : (a, t) ∈ d.leases ↔ lease? ttl a es = some t := by
  induction c generalizing t
  case start => simp [make, lease?]
  case step d e c hi =>
    have hd : d.ttl = ttl := c.ttl_eq hp
    have s := (c.consistent hp).steps e
    rw [lease?_snoc, ← hd]
    exact s.mem_leases (c.consistent hp) (hd ▸ ht) (c.statics_eq hp ▸ ha) (by rwa [hd]) t
  case shuffle hl hi => exact hl.mem_iff.trans (hi t)

theorem Course.mem_leases_iff (c : Course p ttl es d) (hp : p.addresses.Nodup) (ht : 0 < ttl.nanos) (a : String)
    (t : Instant) : (a, t) ∈ d.leases ↔ a ∉ p.addresses ∧ lease? ttl a es = some t := by
  refine ⟨fun hm => ?_, fun ⟨ha, hl⟩ => (c.mem_leases hp ht ha t).mpr hl⟩
  have ha : a ∉ p.addresses := c.statics_eq hp ▸ (c.consistent hp).not_static (mem_map_of_mem hm)
  exact ⟨ha, (c.mem_leases hp ht ha t).mp hm⟩

theorem Course.mem_gone_iff (c : Course p ttl es d) (hp : p.addresses.Nodup) (ht : 0 < ttl.nanos) (a : String)
    (now : Instant) : a ∈ (d.expire now).1 ↔
      a ∈ d.holders ∧ ∃ t, lastRenewal? a es = some t ∧ t + ttl.nanos ≤ now := by
  have hl {t : Instant} (hm : (a, t) ∈ d.leases) : lastRenewal? a es = some t :=
    lastRenewal?_of_lease? ((c.mem_leases_iff hp ht a t).mp hm).right
  have hd := c.ttl_eq hp
  rw [d.mem_gone now]
  refine ⟨fun ⟨t, hm, hr⟩ => ⟨mem_map_of_mem hm, t, hl hm, ?_⟩, fun ⟨hm, t, he, hr⟩ => ?_⟩
  · exact hd ▸ (hasRunOut_iff (hd ▸ ht)).mp hr
  · obtain ⟨⟨_, t'⟩, hm', rfl⟩ := mem_map.mp hm
    obtain rfl : t' = t := Option.some.inj <| (hl hm').symm.trans he
    exact ⟨t', hm', (hasRunOut_iff (hd ▸ ht)).mpr (hd ▸ hr)⟩

theorem Consistent.without_eq_self (h : d.Consistent) (ha : a ∉ d.pool.addresses) : d.without [a] = d := by
  have hl : d.leases.filter (·.1 ∉ [a]) = d.leases := by
    refine filter_eq_self.mpr fun l hl => ?_
    have hm : l.1 ∈ d.pool.addresses := h.addresses.mem_iff.mpr <| mem_append_right _ (mem_map_of_mem hl)
    simpa using ne_of_mem_of_not_mem hm ha
  rw [Directory.without, Pool.without_eq_self ha, hl]

-- A node leaves only if it has an address that a node can have.
theorem Steps.eq_of_invalid (s : d.Steps (.hear x now) d') (h : d.Consistent) (hx : ¬x.Valid) : d' = d := by
  cases s
  case refused      => rfl
  case reweighed hr => exact (hx hr.valid).elim
  case leased hr    => exact (hx hr.valid).elim
  case kept         => rfl
  case left         => exact h.without_eq_self (mt Pool.location_of_mem hx)

-- What the nodes of a directory and its leases have to do with each other and with the events so far.
structure Kept (p : Pool) (ttl : Duration) (es : List Event) (d : Directory) : Prop where
  -- The nodes are those from the start and those that hold a lease, and no address is both.
  addresses : d.pool.addresses ~ p.addresses ++ d.holders
  disjoint  : (p.addresses ++ d.holders).Nodup
  leases (a : String) (t : Instant) :
    (a, t) ∈ d.leases ↔ a ∉ p.addresses ∧ lease? ttl a es = some t
  -- An announcement that is not valid changes nothing.
  refused (x : Announcement) (now : Instant) :
    ¬x.Valid → d.step (.hear x now) = d
  -- A sweep gives up the leases that have not been renewed in time, each of them once, and nothing else.
  expired (a : String) (now : Instant) :
    a ∈ (d.expire now).1 ↔ a ∈ d.holders ∧ ∃ t, lastRenewal? a es = some t ∧ t + ttl.nanos ≤ now
  once (now : Instant) :
    (d.expire now).1.Nodup
  others (now : Instant) :
    (d.expire now).2 = d.without (d.expire now).1

-- Whatever is announced, swept and picked, in whatever order and at whatever times, a directory that starts from
-- some pool keeps its nodes and its leases in step.
theorem course_kept (ops : List Pool.Operation) (ht : 0 < ttl.nanos) (c : Course (Pool.run ops) ttl es d) :
    d.Kept (Pool.run ops) ttl es :=
  have hp := Pool.run_nodup ops
  have h  := c.consistent hp
  have hs := c.statics_eq hp
  { addresses      := hs ▸ h.addresses
    disjoint       := hs ▸ h.nodup
    leases         := c.mem_leases_iff hp ht
    refused _ _ hx := (h.steps _).eq_of_invalid h hx
    expired        := c.mem_gone_iff hp ht
    once _         := h.holders_nodup.sublist (filter_sublist.map _)
    others         := h.expire_eq }

-- Two nodes from the start, of which one is picked once.
def standing : List Pool.Operation :=
  (Pool.tenTwentyThirty.take 2).map .insert ++ [.select]

-- Two nodes more, one of the first two reweighed, and two announcements that are passed over.
def tidings : List Event :=
  [.hear (.register "http://d:1" 5) 9, .hear (.renew "http://e:1" 5) 2, .hear (.register "http://a:1" 7) 3,
   .hear (.deregister "http://b:1") 3, .select, .hear (.register "http://d:1" 0) 8, .hear (.renew "http://d:1" 6) 4]

-- The directory after these, its leases the other way around.
def told : Directory :=
  let d := tidings.foldl step (make (Pool.run standing) ⟨5⟩)
  { d with leases := d.leases.reverse }

theorem course_kept_tidings :
    0 < (Duration.mk 5).nanos ∧ Course (Pool.run standing) ⟨5⟩ tidings told ∧
    told.pool.addresses = ["http://a:1", "http://b:1", "http://d:1", "http://e:1"] ∧
    told.leases = [("http://d:1", 4), ("http://e:1", 2)] ∧
    "http://e:1" ∈ (told.expire 8).1 ∧ "http://d:1" ∉ (told.expire 8).1 ∧
    (told.step (.hear (.renew "e:1" 5) 8)) = told := by
  have ht : 0 < (Duration.mk 5).nanos := by decide
  have c : Course (Pool.run standing) ⟨5⟩ tidings told := .shuffle (Course.append .start tidings) (reverse_perm _)
  have k := course_kept standing ht c
  refine ⟨ht, c, by decide, by decide, ?_, ?_, k.refused _ _ (by decide)⟩
  · exact (k.expired _ _).mpr ⟨by decide, 2, by decide, by decide⟩
  · intro h
    have ⟨_, t, hl, hr⟩ := (k.expired _ _).mp h
    obtain rfl : 4 = t := Option.some.inj hl
    exact absurd hr (by decide)

end Sluice.Directory
