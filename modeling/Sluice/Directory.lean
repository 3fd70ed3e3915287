import Sluice.Duration
import Sluice.Pool

namespace Sluice

-- What a registry says about a node.
inductive Announcement where
  | register (address : String) (weight : Int)
  | renew (address : String) (weight : Int)
  | deregister (address : String)
  deriving DecidableEq, Repr

-- Nodes that announce themselves stand beside those that were there from the start. An announced one holds
-- a lease, which each announcement renews and which runs out unless it is renewed in time.
structure Directory where
  pool    : Pool
  statics : List String
  ttl     : Duration
  -- When each announced node was last announced.
  leases  : List (String × Instant)

namespace Directory

def make (pool : Pool) (ttl : Duration) : Directory :=
  { pool, statics := pool.addresses, ttl, leases := [] }

def isStatic (d : Directory) (address : String) : Bool :=
  d.statics.contains address

def leased (d : Directory) : Nat :=
  d.leases.length

def dropLease (address : String) (leases : List (String × Instant)) : List (String × Instant) :=
  leases.filter (·.1 ≠ address)

-- A node is announced. The static ones take the new weight and get no lease.
def announce (d : Directory) (address : String) (weight : Int) (now : Instant) : Except Fault Directory :=
  match Endpoint.make address weight with
  | .error e => .error e
  | .ok endpoint =>
    let pool := (d.pool.upsert endpoint).2
    if d.isStatic address then .ok { d with pool }
    else .ok { d with pool, leases := dropLease address d.leases ++ [(address, now)] }

def withdraw (d : Directory) (address : String) : Directory :=
  if d.isStatic address then d
  else { d with pool := (d.pool.remove address).2, leases := dropLease address d.leases }

def apply (d : Directory) (a : Announcement) (now : Instant) : Except Fault Directory :=
  match a with
  | .register address weight => d.announce address weight now
  | .renew address weight => d.announce address weight now
  | .deregister address => .ok (d.withdraw address)

-- Applies announcements, passing over those that are not valid.
def watch (d : Directory) (as : List Announcement) (now : Instant) : Directory :=
  as.foldl (fun d a => (d.apply a now).toOption.getD d) d

def hasRunOut (d : Directory) (now renewed : Instant) : Bool :=
  d.ttl.nanos ≤ now - renewed

-- Removes the nodes whose leases have run out, and tells which they are.
def expire (d : Directory) (now : Instant) : List String × Directory :=
  let gone := (d.leases.filter fun (_, renewed) => d.hasRunOut now renewed).map (·.1)
  let leases := d.leases.filter fun (_, renewed) => !d.hasRunOut now renewed
  (gone, { d with pool := gone.foldl (fun p a => (p.remove a).2) d.pool, leases })

end Directory

-- A sweep that is made at `due` and then again after every interval.
structure Reaper where
  due      : Instant
  interval : Duration

namespace Reaper

-- When a reaper sweeps before the clock stands at `until`, and from the last of these on.
def ticks (r : Reaper) (limit : Instant) : List Instant :=
  if r.due < limit then
    (List.range ((limit - r.due - 1) / r.interval.nanos + 1)).map fun k => r.due + k * r.interval.nanos
  else []

-- The reaper once all sweeps due before `limit` are made.
def after (r : Reaper) (limit : Instant) : Reaper :=
  { r with due := r.due + (r.ticks limit).length * r.interval.nanos }

end Reaper

namespace Directory

-- Makes every sweep that the reapers owe before `limit`, in the order of time.
def reap (d : Directory) (reapers : List Reaper) (limit : Instant) : Directory :=
  let times := (reapers.flatMap fun r => r.ticks limit).mergeSort fun a b => decide (a ≤ b)
  times.foldl (fun d t => (d.expire t).2) d

end Directory

end Sluice
