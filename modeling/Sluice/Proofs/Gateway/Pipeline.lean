import Sluice.Proofs.Admission.Charges
import Sluice.Proofs.Gateway.Stages

open List

namespace Sluice

section

variable {ι σ : Type} {gw : Gateway ι} {client : Client ι} {env : Environment ι σ} {req : Request} {call : Call}
         {cancel : Cancellation} {now : Instant} {s t : σ} {e : Fault}

theorem Client.perform_of_denied (h : client.chain.screen (env.ask now) call s = (.error e, t)) :
    client.perform env call cancel now s = .refused e now t := by
  rw [perform, h]

theorem Client.perform_of_admitted (h : client.chain.screen (env.ask now) call s = (.ok (), t)) :
    client.perform env call cancel now s =
      .run client.policy env.toSurroundings call (now + client.timeout.nanos) cancel now t := by
  rw [perform, h]

namespace Gateway

theorem handle_of_unaccepted (h : req.accept gw.maxBody = .error e) :
    gw.handle env req cancel now s = .refused e now s := by
  rw [handle, h]

theorem handle_of_denied (ha : req.accept gw.maxBody = .ok call)
    (hs : gw.chain.screen (env.ask now) call s = (.error e, t)) :
    gw.handle env req cancel now s = .refused e now t := by
  simp only [handle, ha, hs]

theorem handle_of_admitted (ha : req.accept gw.maxBody = .ok call)
    (hs : gw.chain.screen (env.ask now) call s = (.ok (), t)) :
    let run := gw.client.perform env call cancel now t
    gw.handle env req cancel now s = { run with result := run.result.map relay } := by
  simp only [handle, ha, hs]

end Gateway

end

-- Asking the limiters of these checks does not change what this view shows of a state.
def Environment.Overlooks {ι σ τ : Type} (env : Environment ι σ) (now : Instant) (view : σ → τ)
    (checks : List (Check ι)) : Prop :=
  ∀ check ∈ checks, ∀ key s, view (env.ask now check.limiter key s).2 = view s

namespace Gateway

open Request

variable {ι σ : Type}

-- A request goes through the stages, the gateway's chain and the client's chain, in this order, and the first that
-- refuses it decides the answer. What comes after that is not touched: the limiters of a chain that is not reached,
-- the selector and the nodes.
theorem handle_stages (gw : Gateway ι) (env : Environment ι σ) (req : Request) (cancel : Cancellation) (now : Instant)
    (s : σ) :
    let run := gw.handle env req cancel now s
    (∀ call, req.readCall gw.maxBody = .ok call → (intact req.frames).length ≤ gw.maxBody) ∧
    (∀ before stage after, Stage.all = before ++ stage :: after → (∀ b ∈ before, b.Passes gw.maxBody req) →
      ¬stage.Passes gw.maxBody req → ∃ e, stage.fault? gw.maxBody req = some e ∧
        (respond (.error e)).status = stage.status ∧ run = .refused e now s) ∧
    ((∀ stage : Stage, stage.Passes gw.maxBody req) → ∃ payload served t sent u,
      Carries (intact req.frames) payload ∧
      let call := Call.make req.path payload req.headers
      gw.chain.screen (env.ask now) call s = (served, t) ∧ Asked (env.ask now) gw.chain.checks s t ∧
      gw.client.chain.screen (env.ask now) call t = (sent, u) ∧ Asked (env.ask now) gw.client.chain.checks t u ∧
      (∀ e, served = .error e → run = .refused e now t ∧
        ∀ (τ : Type) (view : σ → τ), env.Overlooks now view gw.chain.checks → view t = view s) ∧
      (∀ e, served = .ok () → sent = .error e → run = .refused e now u ∧
        ∀ (τ : Type) (view : σ → τ), env.Overlooks now view (gw.chain.checks ++ gw.client.chain.checks) →
          view u = view s) ∧
      (served = .ok () → sent = .ok () →
        let deadline := now + gw.client.timeout.nanos
        let tried := Invocation.run gw.client.policy env.toSurroundings call deadline cancel now u
        run = { tried with result := tried.result.map relay })) := by
  intro run
  refine ⟨fun _ => length_le_of_readCall, ?_, ?_⟩
  · intro before stage after ha hb hs
    have ⟨e, he, hr⟩ := accept_of_fault ha hb hs
    exact ⟨e, he, Stage.status_of_fault? he, handle_of_unaccepted hr⟩
  intro hp
  have ⟨payload, hr, ha⟩ := accept_of_passes hp
  let call := Call.make req.path payload req.headers
  obtain ⟨served, t, hs⟩ : ∃ served t, gw.chain.screen (env.ask now) call s = (served, t) := ⟨_, _, rfl⟩
  obtain ⟨sent, u, hc⟩ : ∃ sent u, gw.client.chain.screen (env.ask now) call t = (sent, u) := ⟨_, _, rfl⟩
  have hst : Asked (env.ask now) gw.chain.checks s t := by simpa [hs] using gw.chain.screen_asked (env.ask now) call s
  have htu : Asked (env.ask now) gw.client.chain.checks t u := by
    simpa [hc] using gw.client.chain.screen_asked (env.ask now) call t
  refine ⟨payload, served, t, sent, u, hr, hs, hst, hc, htu, ?_, ?_, ?_⟩
  · rintro e rfl
    exact ⟨handle_of_denied ha hs, fun _ _ hv => hst.view_eq hv⟩
  · rintro e rfl rfl
    refine ⟨?_, fun _ _ hv => ?_⟩
    · rw [show run = _ from handle_of_admitted ha hs, Client.perform_of_denied hc]
      rfl
    · have hsu := (hst.subset (subset_append_left ..)).trans (htu.subset (subset_append_right ..))
      exact Asked.view_eq hsu hv
  · rintro rfl rfl
    rw [show run = _ from handle_of_admitted ha hs, Client.perform_of_admitted hc]

-- Limiters with so many slots left, and a selector that counts its steps and knows no node.
def counting : Environment Nat ((Nat → Nat) × Nat) where
  pick s := (none, s.1, s.2 + 1)
  send _ _ _ s := (.never, s)
  ask _ limiter key s := ((Chain.slots limiter key s.1).1, (Chain.slots limiter key s.1).2, s.2)

-- The gateway has two limiters, and its client a third.
def guarded : Gateway Nat where
  chain   := ⟨[⟨.everything "all", 0⟩, ⟨.service "/UserService" "users", 1⟩], .failClosed⟩
  client  := ⟨⟨[⟨.everything "all", 2⟩], .failClosed⟩, .once, .ofMillis 1000⟩
  maxBody := 8

def few : Nat → Nat
  | 1 => 0
  | _ => 1

theorem counting_overlooks (limiter : Nat) {checks : List (Check Nat)} (now : Instant)
    (h : ∀ check ∈ checks, check.limiter ≠ limiter) : counting.Overlooks now (fun s => (s.1 limiter, s.2)) checks :=
  fun check hc key s => Prod.ext (Chain.slots_other (h check hc) key s.1) rfl

def flawed : Request :=
  ⟨"GET", "//", [("content-length", "9".toUTF8.toList)], []⟩

-- A request for a body that is longer than the one that comes in. It gives two lengths, of which the first counts.
def overlong : Request :=
  ⟨"POST", "/UserService/GetById", [("host", Bytes.ofString "g"), ("content-length", Bytes.ofString "+9\t"),
    ("content-length", Bytes.ofString "2")], [.data (Bytes.ofString "{}")]⟩

theorem overlong_declares : overlong.headers.Declares 9 :=
  ⟨[("host", Bytes.ofString "g")], Bytes.ofString "+9\t", _, ['+', '9', '\t'], ⟨true, [9], by decide⟩, rfl, by decide,
    ⟨by decide, by simp [IsVisible]⟩, ⟨[], ['\t'], rfl, by simp⟩, rfl, by decide⟩

-- The body ends in the middle of an object.
def halved : Request :=
  ⟨"POST", "/UserService/GetById", [], [.data (Bytes.ofString "\x7b\"id\""), .data (Bytes.ofString ":")]⟩

theorem read_halved : Json.read (intact halved.frames) = .error ⟨.endInValue, 1, 6⟩ := by
  cbv

theorem halved_passes {stage : Stage} (h : stage ≠ .payload) : stage.Passes guarded.maxBody halved := by
  cases stage
  case payload => exact absurd rfl h
  case length  => exact show 6 ≤ 8 by decide
  all_goals simp [Stage.Passes, halved, Headers.Declares]

theorem halved_stops : ¬Stage.payload.Passes guarded.maxBody halved := by
  intro ⟨v, h⟩
  cases read_halved.symm.trans (h.read_eq_ok (by decide))

theorem halved_fault : Stage.payload.fault? guarded.maxBody halved = some (.malformed ⟨.endInValue, 1, 6⟩) := by
  have he : intact halved.frames ≠ [] := by decide
  simp [Stage.fault?, he, read_halved]

-- The body has eight bytes.
def sound : Request :=
  ⟨"POST", "/UserService/GetById", [], [.data (Bytes.ofString "\x7b\"id\":"), .data (Bytes.ofString "7\x7d")]⟩

theorem read_sound : Json.read (intact sound.frames) = .ok (.obj [("id", .int 7)]) := by
  cbv

theorem sound_carries : Carries (intact sound.frames) (.obj [("id", .int 7)]) :=
  .json (by decide) read_sound

theorem sound_passes {limit : Nat} (h : 8 ≤ limit) (stage : Stage) : stage.Passes limit sound := by
  cases stage
  case payload => exact ⟨_, sound_carries⟩
  case length  => exact h
  all_goals simp [Stage.Passes, sound, Headers.Declares]

-- The first request is wrong in three ways. The second one declares a body that is too long, and the one that comes
-- in is not looked at. The third has a body that is no JSON. The fourth gets as far as the gateway's second limiter,
-- which has no slot left: the client's limiter keeps its own, and no node is looked for.
theorem handle_stages_guarded :
    guarded.handle counting flawed .never 0 (few, 0) = .refused .methodNotAllowed 0 (few, 0) ∧
    guarded.handle counting overlong .never 0 (few, 0) = .refused (.bodyTooLarge 8) 0 (few, 0) ∧
    guarded.handle counting halved .never 0 (few, 0) = .refused (.malformed ⟨.endInValue, 1, 6⟩) 0 (few, 0) ∧
    let denied := guarded.handle counting sound .never 0 (few, 0)
    denied.result = .error (.limited .service) ∧ denied.attempts = [] ∧ denied.state.1 2 = 1 ∧ denied.state.2 = 0 := by
  obtain ⟨_, hf, _⟩ := handle_stages guarded counting flawed .never 0 (few, 0)
  obtain ⟨e, he, _, hr⟩ := hf [] .method _ rfl (by simp) (by simp [Stage.Passes, flawed])
  obtain ⟨_, hl, _⟩ := handle_stages guarded counting overlong .never 0 (few, 0)
  obtain ⟨f, hg, _, ho⟩ := hl [.method] .declared _ rfl (by simp [Stage.Passes, overlong])
    fun h => absurd (h 9 overlong_declares) (by decide)
  obtain ⟨_, hm, _⟩ := handle_stages guarded counting halved .never 0 (few, 0)
  obtain ⟨g, hk, _, hh⟩ := hm [.method, .declared, .path, .length, .transfer] .payload _ rfl
    (fun b hb => halved_passes fun h => absurd (h ▸ hb) (by decide)) halved_stops
  obtain ⟨_, _, hd⟩ := handle_stages guarded counting sound .never 0 (few, 0)
  obtain ⟨payload, served, t, sent, u, hn, hs, _, _, _, ht, _⟩ := hd (sound_passes le_rfl)
  obtain rfl := hn.unique sound_carries
  obtain ⟨hu, hv⟩ := ht _ (congrArg Prod.fst hs).symm
  have hw := hv _ _ (counting_overlooks 2 0 (by decide))
  cases he
  obtain rfl : f = .bodyTooLarge 8 := Option.some.inj (hg.symm.trans rfl)
  obtain rfl := Option.some.inj (halved_fault.symm.trans hk)
  rw [hu]
  exact ⟨hr, ho, hh, rfl, rfl, congrArg Prod.fst hw, congrArg Prod.snd hw⟩

end Gateway

end Sluice
