import Banip.Daemon.Loop
import Banip.Lib.StateTable

/-!
# Enforcement — the daemon with the PF engine and the packets it is to stop

PF keeps tables of networks and the states of the connections it has let in.  Its rules are asked
about new connections only, so `pf_handle` makes two calls for one ban, `DIOCRADDADDRS` and
`DIOCKILLSTATES`, and between the two, as between any two steps of the daemon, packets come in.

This module is about the loop of `banipd` on such a host.  Each call may fail, a signal may end the
daemon between two calls, and a new daemon may take over.  The packet filter itself is not part of the
source, and what it does with the calls is up to the rules of the host.  So it is a parameter here: a
`Filter` of the library, which is assumed to be `Lawful`.  Whether a rule such as
`block quick from <table>` decides about a connection is a hypothesis about that connection,
`Governed`.  It fails for a connection that an earlier `pass quick` lets in, for an address that is
negated in the table, and for all of them on a host without a rule for the table.

For the connections that are governed, a ban takes effect at one instant, that of `DIOCRADDADDRS`, and
from the return of `pf_handle` on none is left, whatever comes later.  Connections from other networks
do not notice the daemon, whatever the rules are.
-/

namespace Banip
namespace Enforcement

open Lib Pf Daemon

/-! ## The packet filter -/

/-- The source of a connection. -/
structure Source where
  family : Family
  addr : Bytes
  sized : addr.length = family.size
deriving DecidableEq

instance (entry : PfrAddr) (x : Bytes) : Decidable (Covers entry x) :=
  inferInstanceAs (Decidable (SamePrefix _ _ _))

/-- The source is in the network of the table entry. -/
def covers (entry : PfrAddr) (s : Source) : Bool :=
  entry.pfraAf = s.family && decide (Covers entry s.addr)

/-- A state of the source is one that the request kills. -/
def hits (psk : StateKill) (s : Source) : Bool :=
  psk.pskAf = s.family && decide (Matches psk s.addr)

/-- The packet filter of a host with its rules, in one of the states `κ` that it can come to.  The
entries are those of tables, with the name of the table, and each connection has a source. -/
structure PacketFilter (κ φ : Type) extends Filter κ φ (Bytes × PfrAddr) StateKill where
  source : φ → Source

/-- What reaches a packet filter: packets, entries for tables, and requests to kill states. -/
abbrev Call (φ : Type) : Type := FilterCall φ (Bytes × PfrAddr) StateKill

namespace PacketFilter

variable {κ φ : Type} (F : PacketFilter κ φ)

def entryCovers (b : Bytes × PfrAddr) (c : φ) : Bool := covers b.2 (F.source c)

def requestHits (psk : StateKill) (c : φ) : Bool := hits psk (F.source c)

/-- Entries and requests are about sources, as `pf.c` expects it. -/
def Lawful [DecidableEq φ] : Prop := F.toFilter.Laws F.entryCovers F.requestHits

/-- A rule that refuses the networks of the table decides about the connection. -/
def Governed (table : Bytes) (c : φ) : Prop :=
  F.toFilter.Governs F.entryCovers (fun b => b.1 = table) c

/-- The event of a state table that a call comes to. -/
def event : Call φ → FilterEvent φ := FilterCall.event F.entryCovers F.requestHits

end PacketFilter

/-! ## The daemon -/

/-- A packet that asks for a connection, or the end of one. -/
inductive Packet (φ : Type) where
  | opened (c : φ)
  | closed (c : φ)

def Packet.call {φ : Type} : Packet φ → Call φ
  | .opened c => .opened c
  | .closed c => .closed c

def Packet.event {φ : Type} : Packet φ → FilterEvent φ
  | .opened c => .opened c
  | .closed c => .closed c

def packetCalls {φ : Type} (ps : List (Packet φ)) : List (Call φ) := ps.map Packet.call

def ioctlCall {φ : Type} : Ioctl → Call φ
  | .addAddrs table entry => .add (table, entry)
  | .killStates psk => .kill psk

/-- What a daemon with the PF engine is compiled and started with. -/
structure Site where
  host : Host
  libc : LibC
  backend : Backend
  tablename : Bytes

namespace Site

def setup (site : Site) : Setup := ⟨site.host, site.libc, site.backend, .pf, site.tablename⟩

/-- The name of the table as PF gets it. -/
def table (site : Site) : Bytes := site.tablename.take (tableNameSize - 1)

end Site

/-- The daemon's loop while there is one, the addresses `pf_handle` was called with, and those for which
it has returned `true`. -/
structure Watch where
  loop : Option LoopState
  handed : List Addr
  banned : List Addr

/-- What happens: a daemon comes to its loop, or a round, with the packets before and after each of its
`ioctl` calls; `cut` is the number of calls after which a signal ends the daemon. -/
inductive Action (φ : Type) where
  | launch
  | round (x : Arrival) (traffic : Nat → List (Packet φ)) (cut : Option Nat)

/-- The address a round calls `pf_handle` with, given the slot at its head. -/
def accepted (cfg : Setup) (error : Slot) (x : Arrival) : Option Addr :=
  match x.recv with
  | .error _ => none
  | .ok buffer =>
    match parseAddr cfg.host cfg.libc x.errno (cstr buffer) error with
    | .ok (addr, _) => addr
    | .error _ => none

/-- The entry for an `addr_t`. -/
def entry (a : Addr) : PfrAddr := ⟨a.fa, a.netmask, a.sa⟩

/-- What reaches the packet filter through some calls, the first of them the `i`-th of its
`pf_handle`: those that succeed, with the packets before each call and after the last. -/
def perform {φ : Type} (outcome : Nat → Option Nat) (traffic : Nat → List (Packet φ)) :
    List Ioctl → Nat → List (Call φ)
  | [], i => packetCalls (traffic i)
  | c :: cs, i =>
      packetCalls (traffic i) ++ (if (outcome i).isNone then [ioctlCall c] else []) ++
        perform outcome traffic cs (i + 1)

namespace Watch

variable {φ : Type} (site : Site)

/-- A host before its first daemon. -/
def start : Watch := ⟨none, [], []⟩

def handled (x : Arrival) (a : Addr) : Outcome :=
  pfHandle site.host site.libc x.sys.ioctl site.tablename a

/-- The calls `pf_handle` comes to. -/
def calls (x : Arrival) (cut : Option Nat) (a : Addr) : List Ioctl :=
  match cut with
  | none => (handled site x a).ioctls
  | some n => (handled site x a).ioctls.take n

/-- The address that `pf_handle` is called with in a round. -/
def target (w : Watch) (x : Arrival) : Option Addr :=
  w.loop.bind fun st => accepted site.setup st.error x

def step (w : Watch) : Action φ → Watch
  | .launch => { w with loop := some .start }
  | .round x _ cut =>
    let loop :=
      if cut.isNone then w.loop.bind fun st => (Daemon.round site.setup st x).toOption else none
    match w.target site x with
    | none => { w with loop := loop }
    | some a =>
      { loop := loop
        handed := w.handed ++ [a]
        banned := if cut.isNone && (handled site x a).ok then w.banned ++ [a] else w.banned }

def run (w : Watch) (acts : List (Action φ)) : Watch := acts.foldl (step site) w

/-- What reaches the packet filter in an action. -/
def happened (w : Watch) : Action φ → List (Call φ)
  | .launch => []
  | .round x traffic cut =>
    match w.target site x with
    | none => packetCalls (traffic 0)
    | some a => perform x.sys.ioctl traffic (calls site x cut a) 0

/-- What reaches the packet filter in a run. -/
def trace : Watch → List (Action φ) → List (Call φ)
  | _, [] => []
  | w, act :: acts => happened site w act ++ trace (w.step site act) acts

end Watch

/-! ## The two requests of a ban -/

/-- What `pf_handle` asks of the kernel for an accepted address: the entry for its network, and, if
that call has succeeded, one kill request for the same network. -/
lemma pfHandle_requests {h : Host} {L : LibC} (hL : L.NumericLookup) {errno : Nat} {s : Bytes}
    {error e : Slot} {a : Addr} (ha : parseAddr h L errno s error = .ok (some a, e))
    (ioctl : Nat → Option Nat) (tablename : Bytes) :
    ∃ psk report, (∀ x, hits psk x = covers (entry a) x) ∧
      pfHandle h L ioctl tablename a =
        ⟨.addAddrs (tablename.take (tableNameSize - 1)) (entry a) ::
            if (ioctl 0).isNone then [.killStates psk] else [],
          (ioctl 0).isNone && (ioctl 1).isNone, report⟩ := by
  rcases parseAddr_some ha with ⟨f, bytes, n, hpton, hn, rfl⟩
  rcases inetPton_length hpton with ⟨-, hbytes⟩
  rcases hL f _ bytes hpton with ⟨res, rest, sa, hgai, hsame, hsa, hfresh⟩
  have hf : f = .inet ∨ f = .inet6 := by
    cases f with
    | inet => exact Or.inl rfl
    | inet6 => exact Or.inr rfl
    | other n => cases hpton
  have hhits : ∀ x, hits ⟨f, killAddr f sa, killMask h (addrOf (addressPart s) f bytes n)⟩ x =
      covers (entry (addrOf (addressPart s) f bytes n)) x := by
    intro x
    unfold hits covers entry
    by_cases hfam : f = x.family
    · have hx : x.addr.length = f.size := hfam ▸ x.sized
      simp only [addrOf, hfam, decide_true, Bool.true_and, decide_eq_decide]
      subst hfam
      exact matches_killRequest h hf hbytes hn hsa hx
    · simp [addrOf, hfam]
  cases h0 : ioctl 0 with
  | some errno =>
    -- `pf_handle` returns before it comes to `getaddrinfo`
    exact ⟨_, _, hhits, by simp only [pfHandle, h0]; rfl⟩
  | none =>
    refine ⟨_, (ioctl 1).map fun errno =>
      systemError (str "ioctl(DIOCKILLSTATES) failed") (L.strerror errno), hhits, ?_⟩
    simp only [pfHandle, h0, addrOf, hgai, killLoop_single L ioctl hf 1 hsame hfresh]
    rfl

/-- The calls that are made for an accepted address, if the daemon is not cut off: none, the first, or
both if the first has succeeded.  `pf_handle` returns `true` if both were made and succeeded. -/
lemma calls_cases {site : Site} (hL : site.libc.NumericLookup) {w : Watch} {x : Arrival} {a : Addr}
    (ha : w.target site x = some a) (cut : Option Nat) :
    ∃ psk, (∀ s, hits psk s = covers (entry a) s) ∧
      (Watch.calls site x cut a ∈ [[], [.addAddrs site.table (entry a)]] ∨
        (x.sys.ioctl 0).isNone ∧
          Watch.calls site x cut a = [.addAddrs site.table (entry a), .killStates psk]) ∧
      (cut.isNone && (Watch.handled site x a).ok →
        (x.sys.ioctl 0).isNone ∧ (x.sys.ioctl 1).isNone ∧
          Watch.calls site x cut a = [.addAddrs site.table (entry a), .killStates psk]) := by
  rcases Option.bind_eq_some_iff.1 ha with ⟨st, -, ha⟩
  unfold accepted at ha
  cases hrecv : x.recv with
  | error errno => simp [hrecv] at ha
  | ok buffer =>
    simp only [hrecv] at ha
    cases hparse : parseAddr site.setup.host site.setup.libc x.errno (cstr buffer) st.error with
    | error f => simp [hparse] at ha
    | ok r =>
      rcases r with ⟨addr, e⟩
      simp only [hparse] at ha
      subst ha
      rcases pfHandle_requests hL hparse x.sys.ioctl site.tablename with ⟨psk, report, hhits, hout⟩
      have hioctls : (Watch.handled site x a).ioctls = _ := congrArg Outcome.ioctls hout
      have hok : (Watch.handled site x a).ok = _ := congrArg Outcome.ok hout
      refine ⟨psk, hhits, ?_, ?_⟩
      · cases cut with
        | none =>
          rw [Watch.calls, hioctls]
          cases h0 : (x.sys.ioctl 0).isNone <;> simp [Site.table]
        | some n =>
          -- the signal comes before the first call, before the second, or after both
          rw [Watch.calls, hioctls]
          rcases n with _ | _ | n
          · simp
          · simp [Site.table]
          · cases h0 : (x.sys.ioctl 0).isNone <;> simp [Site.table]
      · cases cut with
        | none =>
          intro hdone
          simp only [Option.isNone_none, hok, Bool.true_and, Bool.and_eq_true] at hdone
          refine ⟨hdone.1, hdone.2, ?_⟩
          rw [Watch.calls, hioctls, if_pos hdone.1]
          rfl
        | some n => simp

/-! ## One instant -/

section Instant

variable {κ φ : Type} (F : PacketFilter κ φ) (site : Site)

/-- The connections of the network of an `addr_t`. -/
def network (a : Addr) (c : φ) : Bool := covers (entry a) (F.source c)

def packetEvents (ps : List (Packet φ)) : List (FilterEvent φ) := ps.map Packet.event

/-- The part of a ban that the kernel has performed once `made` calls were made. -/
def requests (outcome : Nat → Option Nat) (a : Addr) (made : Nat) : List (FilterEvent φ) :=
  if 0 < made ∧ (outcome 0).isNone then
    .block (network F a) ::
      if 1 < made ∧ (outcome 1).isNone then [.kill (network F a)] else []
  else []

/-- An action, with the ban of its round at one instant: after the packets before `DIOCRADDADDRS` and
before those that come later. -/
def instant (w : Watch) : Action φ → List (FilterEvent φ)
  | .launch => []
  | .round x traffic cut =>
    match w.target site x with
    | none => packetEvents (traffic 0)
    | some a =>
      let made := (Watch.calls site x cut a).length
      packetEvents (traffic 0) ++ requests F x.sys.ioctl a made ++
        packetEvents ((List.range made).flatMap fun i => traffic (i + 1))

/-- A run with each ban at one instant. -/
def atomic : Watch → List (Action φ) → List (FilterEvent φ)
  | _, [] => []
  | w, act :: acts => instant F site w act ++ atomic (w.step site act) acts

variable {F site}

lemma packetEvents_isPacket (ps : List (Packet φ)) : ∀ e ∈ packetEvents ps, e.isPacket = true := by
  intro e he
  rcases List.mem_map.1 he with ⟨p, -, rfl⟩
  cases p <;> rfl

@[simp] lemma map_event_packets (ps : List (Packet φ)) :
    (packetCalls ps).map F.event = packetEvents ps := by
  have hevent : F.event ∘ Packet.call = Packet.event := by
    funext p
    cases p <;> rfl
  rw [packetCalls, List.map_map, hevent, packetEvents]

@[simp] lemma packetEvents_append (ps ps' : List (Packet φ)) :
    packetEvents (ps ++ ps') = packetEvents ps ++ packetEvents ps' := List.map_append

@[simp] lemma packetEvents_nil : packetEvents ([] : List (Packet φ)) = [] := rfl

@[simp] lemma event_addAddrs (table : Bytes) (a : Addr) :
    F.event (ioctlCall (.addAddrs table (entry a))) = .block (network F a) := rfl

lemma event_killStates {a : Addr} {psk : StateKill} (hhits : ∀ s, hits psk s = covers (entry a) s) :
    F.event (ioctlCall (.killStates psk)) = .kill (network F a) := by
  have heq : F.requestHits psk = network F a := funext fun c => hhits (F.source c)
  exact congrArg FilterEvent.kill heq

variable [DecidableEq φ]

/-- The calls of a ban and the packets between them come to the ban at the instant of the first. -/
lemma run_perform {outcome : Nat → Option Nat} {a : Addr} {psk : StateKill} {cs : List Ioctl}
    (hhits : ∀ s, hits psk s = covers (entry a) s)
    (hcs : cs ∈ [[], [.addAddrs site.table (entry a)]] ∨
      (outcome 0).isNone ∧ cs = [.addAddrs site.table (entry a), .killStates psk])
    (traffic : Nat → List (Packet φ)) (t : StateTable φ) :
    t.run ((perform outcome traffic cs 0).map F.event) =
      t.run (packetEvents (traffic 0) ++ requests F outcome a cs.length ++
        packetEvents ((List.range cs.length).flatMap fun i => traffic (i + 1))) := by
  rcases hcs with hcs | ⟨h0, rfl⟩
  · simp only [List.mem_cons, List.not_mem_nil, or_false] at hcs
    rcases hcs with rfl | rfl
    · simp [perform, requests]
    · cases h0 : (outcome 0).isNone with
      | true => simp [perform, requests, h0]
      | false => simp [perform, requests, h0]
  · have hrange : (List.range 2).flatMap (fun i => traffic (i + 1)) = traffic 1 ++ traffic 2 := by
      simp [List.range_succ]
    cases h1 : (outcome 1).isNone with
    | true =>
      -- the packets that came between the calls go behind them
      have hswap := StateTable.run_block_kill (t.run (packetEvents (traffic 0))) (network F a)
        (packetEvents_isPacket (traffic 1))
      simp only [List.cons_append, StateTable.run_cons, StateTable.run_append,
        StateTable.run_nil] at hswap
      simp [perform, requests, h0, h1, event_killStates hhits, hrange, hswap]
    | false => simp [perform, requests, h0, h1, hrange]

lemma run_happened (hL : site.libc.NumericLookup) (w : Watch) (act : Action φ) (t : StateTable φ) :
    t.run ((w.happened site act).map F.event) = t.run (instant F site w act) := by
  cases act with
  | launch => rfl
  | round x traffic cut =>
    cases ha : w.target site x with
    | none => simp [Watch.happened, instant, ha]
    | some a =>
      rcases calls_cases hL ha cut with ⟨psk, hhits, hcs, -⟩
      simp only [Watch.happened, instant, ha]
      exact run_perform hhits hcs traffic t

/-- A run comes to the run in which each ban is made at one instant. -/
lemma run_trace (hL : site.libc.NumericLookup) (w : Watch) (acts : List (Action φ)) (t : StateTable φ) :
    t.run ((w.trace site acts).map F.event) = t.run (atomic F site w acts) := by
  induction acts generalizing w t with
  | nil => rfl
  | cons act acts ih =>
    rw [Watch.trace, atomic, List.map_append, StateTable.run_append, StateTable.run_append,
      run_happened hL]
    exact ih _ _

end Instant

/-! ## What the daemon asks for -/

section Asked

variable {φ : Type} {site : Site}

/-- The call is a packet, or it is about the network of one of the addresses. -/
def Asked (site : Site) (handed : List Addr) : Call φ → Prop
  | .opened _ | .closed _ => True
  | .add b => b.1 = site.table ∧ ∃ a ∈ handed, b.2 = entry a
  | .kill psk => ∃ a ∈ handed, ∀ s, hits psk s = covers (entry a) s

lemma Asked.mono {handed handed' : List Addr} (hsub : ∀ a ∈ handed, a ∈ handed') {c : Call φ}
    (h : Asked site handed c) : Asked site handed' c := by
  cases c with
  | opened | closed => trivial
  | add b =>
    rcases h with ⟨htable, a, ha, hb⟩
    exact ⟨htable, a, hsub a ha, hb⟩
  | kill psk =>
    rcases h with ⟨a, ha, hpsk⟩
    exact ⟨a, hsub a ha, hpsk⟩

lemma asked_packet {handed : List Addr} (p : Packet φ) : Asked site handed p.call := by
  cases p <;> trivial

/-- What is performed is packets and some of the calls. -/
lemma perform_asked {handed : List Addr} {outcome : Nat → Option Nat} {traffic : Nat → List (Packet φ)}
    {cs : List Ioctl} (hcs : ∀ c ∈ cs, Asked (φ := φ) site handed (ioctlCall c)) (i : Nat) :
    ∀ c ∈ perform outcome traffic cs i, Asked site handed c := by
  induction cs generalizing i with
  | nil =>
    intro c hc
    rcases List.mem_map.1 hc with ⟨p, -, rfl⟩
    exact asked_packet p
  | cons first cs ih =>
    intro c hc
    rw [perform, List.mem_append, List.mem_append] at hc
    rcases hc with (hc | hc) | hc
    · rcases List.mem_map.1 hc with ⟨p, -, rfl⟩
      exact asked_packet p
    · split at hc
      · cases List.mem_singleton.1 hc
        exact hcs first (by simp)
      · cases hc
    · exact ih (fun c hc => hcs c (List.mem_cons_of_mem _ hc)) (i + 1) c hc

lemma happened_asked (hL : site.libc.NumericLookup) (w : Watch) (act : Action φ) :
    ∀ c ∈ w.happened site act, Asked site (w.step site act).handed c := by
  intro c hc
  cases act with
  | launch => cases hc
  | round x traffic cut =>
    cases ha : w.target site x with
    | none =>
      simp only [Watch.happened, ha] at hc
      rcases List.mem_map.1 hc with ⟨p, -, rfl⟩
      exact asked_packet p
    | some a =>
      simp only [Watch.happened, ha] at hc
      have hmem : a ∈ (w.step site (.round x traffic cut)).handed := by simp [Watch.step, ha]
      rcases calls_cases hL ha cut with ⟨psk, hhits, hcs, -⟩
      have hadd : Asked (φ := φ) site (w.step site (.round x traffic cut)).handed
          (ioctlCall (.addAddrs site.table (entry a))) := ⟨rfl, a, hmem, rfl⟩
      have hkill : Asked (φ := φ) site (w.step site (.round x traffic cut)).handed
          (ioctlCall (.killStates psk)) := ⟨a, hmem, hhits⟩
      refine perform_asked ?_ 0 c hc
      rcases hcs with hcs | ⟨-, hcs⟩
      · simp only [List.mem_cons, List.not_mem_nil, or_false] at hcs
        rcases hcs with hcs | hcs
        · simp [hcs]
        · simpa [hcs] using hadd
      · simpa [hcs] using ⟨hadd, hkill⟩

/-- `handed` only grows. -/
lemma handed_step (w : Watch) (act : Action φ) {a : Addr} (ha : a ∈ w.handed) :
    a ∈ (w.step site act).handed := by
  cases act with
  | launch => exact ha
  | round x traffic cut =>
    simp only [Watch.step]
    split
    · exact ha
    · exact List.mem_append_left _ ha

lemma handed_run (w : Watch) (acts : List (Action φ)) {a : Addr} (ha : a ∈ w.handed) :
    a ∈ (w.run site acts).handed := by
  have hstep : ∀ (w : Watch) act, a ∈ w.handed → a ∈ (w.step (φ := φ) site act).handed :=
    fun w act h => handed_step w act h
  exact foldl_preserves hstep ha acts

/-- In a run, the packet filter is asked about the networks of the addresses that were handed on. -/
lemma trace_asked (hL : site.libc.NumericLookup) (w : Watch) (acts : List (Action φ)) :
    ∀ c ∈ w.trace site acts, Asked site (w.run site acts).handed c := by
  induction acts generalizing w with
  | nil => exact fun c hc => nomatch hc
  | cons act acts ih =>
    intro c hc
    rcases List.mem_append.1 hc with hc | hc
    · exact (happened_asked hL w act c hc).mono fun a ha => handed_run _ acts ha
    · exact ih _ c hc

end Asked

/-! ## What a ban leaves -/

section Holds

variable {κ φ : Type} [DecidableEq φ] {F : PacketFilter κ φ} {site : Site}

/-- In the state table every ban that has been made holds. -/
def Holds (F : PacketFilter κ φ) (w : Watch) (t : StateTable φ) : Prop :=
  ∀ a ∈ w.banned, StateTable.Shut (network F a) t

lemma Holds.step (hL : site.libc.NumericLookup) {w : Watch} {t : StateTable φ} (h : Holds F w t)
    (act : Action φ) : Holds F (w.step site act) (t.run (instant F site w act)) := by
  have hold : ∀ a ∈ w.banned, StateTable.Shut (network F a) (t.run (instant F site w act)) :=
    fun a ha => (h a ha).run _
  cases act with
  | launch => exact hold
  | round x traffic cut =>
    cases ha : w.target site x with
    | none => simpa only [Holds, Watch.step, ha] using hold
    | some a =>
      rcases calls_cases hL ha cut with ⟨psk, -, -, hdone⟩
      intro b hb
      simp only [Watch.step, ha] at hb
      split at hb
      · rename_i hok
        rcases List.mem_append.1 hb with hb | hb
        · exact hold b hb
        · -- both calls were made, and both succeeded
          cases List.mem_singleton.1 hb
          rcases hdone hok with ⟨h0, h1, hcalls⟩
          simp only [instant, ha, hcalls, requests, h0, h1, List.length_cons, List.length_nil,
            StateTable.run_append]
          exact (StateTable.shut_of_block_kill _ _ []).run _
      · exact hold b hb

lemma Holds.run (hL : site.libc.NumericLookup) {w : Watch} {t : StateTable φ} (h : Holds F w t)
    (acts : List (Action φ)) : Holds F (w.run site acts) (t.run (atomic F site w acts)) := by
  induction acts generalizing w t with
  | nil => exact h
  | cons act acts ih =>
    rw [atomic, StateTable.run_append]
    exact ih (h.step hL act)

end Holds

/-! ## A filter that meets the laws -/

/-- The rules `pass quick` for some sources and then `block quick` for some tables. -/
def quickRules (passed : List Source) (blocked : List Bytes) (tables : List (Bytes × PfrAddr))
    (s : Source) : Bool :=
  passed.contains s || !tables.any fun b => blocked.contains b.1 && covers b.2 s

/-- A packet filter with such rules.  Its states are the entries of its tables and the sources of its
connections. -/
def quickFilter (passed : List Source) (blocked : List Bytes) :
    PacketFilter (List (Bytes × PfrAddr) × List Source) Source where
  source := id
  admits k s := quickRules passed blocked k.1 s
  states k := k.2
  opened k s := if quickRules passed blocked k.1 s then (k.1, k.2 ++ [s]) else k
  closed k s := (k.1, k.2.erase s)
  add k b := (k.1 ++ [b], k.2)
  kill k psk := (k.1, k.2.filter fun s => !hits psk s)

lemma quickFilter_lawful (passed : List Source) (blocked : List Bytes) :
    (quickFilter passed blocked).Lawful where
  states_opened k s := apply_ite Prod.snd _ _ _
  states_closed _ _ := rfl
  states_add _ _ := rfl
  states_kill _ _ := rfl
  admits_opened k s y := by
    simp only [quickFilter]
    split <;> rfl
  admits_closed _ _ _ := rfl
  admits_kill _ _ _ := rfl
  admits_add k b y hb := by
    have hcovers : covers b.2 y = false := hb
    simp [quickFilter, quickRules, hcovers]

/-- What a table with a rule governs are the sources that no earlier rule lets in. -/
lemma quickFilter_governed {passed : List Source} {blocked : List Bytes} {table : Bytes}
    (htable : table ∈ blocked) {s : Source} (hs : s ∉ passed) :
    (quickFilter passed blocked).Governed table s := by
  rintro k ⟨t, e⟩ rfl hb
  have hcovers : covers e s = true := hb
  simp [quickFilter, quickRules, hs, htable, hcovers]

/-! ## Runs -/

def watchSite : Site := ⟨Host.lp64, LibC.numeric, .posix, str "bad"⟩

/-- A host with a rule for the table `bad`, and one for a source that is always let in. -/
def watchFilter : PacketFilter (List (Bytes × PfrAddr) × List Source) Source :=
  quickFilter [⟨.inet, [192, 0, 2, 101], rfl⟩] [str "bad"]

/-- Two daemons.  A connection of the network is open when the first ban comes, sources of it ask for
others between the two calls and after them, and the second daemon is ended between the calls of a
second ban. -/
def watch : List (Action Source) :=
  let ok : SysCalls := ⟨fun _ => none, fun _ => 0⟩
  [.launch,
    .round ⟨.ok (str "192.0.2.77/26" ++ [0]), 0, ok⟩
      (fun i => [.opened ⟨.inet, [192, 0, 2, BitVec.ofNat 8 (100 + i)], rfl⟩,
        .opened ⟨.inet, [192, 0, 2, 102], rfl⟩, .opened ⟨.inet, [192, 0, 2, 130], rfl⟩])
      none,
    .launch,
    .round ⟨.ok (str "2001:db8::/32" ++ [0]), 0, ok⟩ (fun _ => []) (some 1)]

section Runs

variable {κ φ : Type} [DecidableEq φ] (F : PacketFilter κ φ) (site : Site)

/-- The packet filter after a run of the host. -/
def afterRun (k : κ) (acts : List (Action φ)) : κ := F.run k (Watch.start.trace site acts)

variable {F site}

/-- A connection sees of a run what it sees of the run with each ban at one instant, if the table
governs it or no ban is about it. -/
lemma seen_afterRun (hF : F.Lawful) (hL : site.libc.NumericLookup) (k : κ) (acts : List (Action φ))
    {c : φ} (hc : ∀ a ∈ (Watch.start.run site acts).handed, network F a c = true →
      F.Governed site.table c) :
    (F.view (afterRun F site k acts)).seen c =
      ((F.view k).run (atomic F site .start acts)).seen c := by
  rw [← run_trace hL, afterRun]
  refine Filter.Laws.seen_run hF ?_ k
  intro b hb hcovers k'
  rcases trace_asked hL .start acts _ hb with ⟨htable, a, ha, hentry⟩
  refine hc a ha ?_ k' b htable hcovers
  rw [network, ← hentry]
  exact hcovers

end Runs

/-- For a connection that the table governs, the packet filter of every run is in the state it would be
in if each ban had been made at one instant, that of its `DIOCRADDADDRS`, whatever fails, whatever
comes in between and wherever signals end the daemons. -/
theorem ban_instant {κ φ : Type} [DecidableEq φ] (F : PacketFilter κ φ) (hF : F.Lawful) (site : Site)
    (hL : site.libc.NumericLookup) (k : κ) (acts : List (Action φ)) (c : φ)
    (hc : F.Governed site.table c) :
    (F.view (afterRun F site k acts)).seen c =
      ((F.view k).run (atomic F site .start acts)).seen c :=
  seen_afterRun hF hL k acts fun _ _ _ => hc

theorem ban_instant_watch :
    (watchFilter.view (afterRun watchFilter watchSite ([], []) watch)).seen
        ⟨.inet, [192, 0, 2, 102], rfl⟩ =
      ((watchFilter.view ([], [])).run (atomic watchFilter watchSite .start watch)).seen
        ⟨.inet, [192, 0, 2, 102], rfl⟩ :=
  ban_instant watchFilter (quickFilter_lawful _ _) watchSite LibC.numeric_numericLookup ([], []) watch _
    (quickFilter_governed (by decide) (by decide))

/-- A ban that `pf_handle` has returned `true` for holds for good: a connection of the network that the
table governs is not open and is not let in, through all later rounds, faults, signals and restarts. -/
theorem ban_holds {κ φ : Type} [DecidableEq φ] (F : PacketFilter κ φ) (hF : F.Lawful) (site : Site)
    (hL : site.libc.NumericLookup) (k : κ) (acts : List (Action φ)) {a : Addr}
    (ha : a ∈ (Watch.start.run site acts).banned) (c : φ) (hnet : network F a c = true)
    (hc : F.Governed site.table c) :
    F.admits (afterRun F site k acts) c = false ∧ c ∉ F.states (afterRun F site k acts) := by
  have hstart : Holds F .start (F.view k) := fun a ha => nomatch ha
  have hseen := seen_afterRun hF hL k acts fun _ _ _ => hc
  rw [(hstart.run hL acts a ha).seen hnet] at hseen
  simp only [StateTable.seen, Filter.view, Prod.mk.injEq, Bool.not_eq_true', List.count_eq_zero] at hseen
  exact hseen

/-- The source that is always let in has a connection again. -/
theorem ban_holds_watch : (∃ a ∈ (Watch.start.run watchSite watch).banned,
      network watchFilter a ⟨.inet, [192, 0, 2, 102], rfl⟩ = true ∧
        watchFilter.admits (afterRun watchFilter watchSite ([], []) watch)
          ⟨.inet, [192, 0, 2, 102], rfl⟩ = false) ∧
    watchFilter.admits (afterRun watchFilter watchSite ([], []) watch)
      ⟨.inet, [192, 0, 2, 101], rfl⟩ = true := by
  have hbanned : ∃ a ∈ (Watch.start.run watchSite watch).banned,
      network watchFilter a ⟨.inet, [192, 0, 2, 102], rfl⟩ = true := by
    decide +kernel
  rcases hbanned with ⟨a, ha, hnet⟩
  have hgoverned : watchFilter.Governed watchSite.table ⟨.inet, [192, 0, 2, 102], rfl⟩ :=
    quickFilter_governed (by decide) (by decide)
  exact ⟨⟨a, ha, hnet, (ban_holds watchFilter (quickFilter_lawful _ _) watchSite
    LibC.numeric_numericLookup ([], []) watch ha _ hnet hgoverned).1⟩, by decide +kernel⟩

/-- A connection in none of the networks the daemon was asked to ban is open as often as it would be,
and is let in when it would be, after the same packets without a daemon. -/
theorem ban_spares {κ φ : Type} [DecidableEq φ] (F : PacketFilter κ φ) (hF : F.Lawful) (site : Site)
    (hL : site.libc.NumericLookup) (k : κ) (acts : List (Action φ)) (c : φ)
    (hc : ∀ a ∈ (Watch.start.run site acts).handed, network F a c = false) :
    (F.view (afterRun F site k acts)).seen c =
      (F.view (F.run k ((Watch.start.trace site acts).filter FilterCall.isPacket))).seen c := by
  have hadd : ∀ b, .add b ∈ Watch.start.trace site acts → F.entryCovers b c = false := by
    intro b hb
    rcases trace_asked hL .start acts _ hb with ⟨-, a, ha, hentry⟩
    rw [PacketFilter.entryCovers, hentry]
    exact hc a ha
  have hspared : ∀ e ∈ (Watch.start.trace site acts).map F.event, e.Spares c := by
    intro e he
    rcases List.mem_map.1 he with ⟨call, hcall, rfl⟩
    cases call with
    | opened | closed => trivial
    | add b => exact hadd b hcall
    | kill psk =>
      rcases trace_asked hL .start acts _ hcall with ⟨a, ha, hpsk⟩
      exact (hpsk (F.source c)).trans (hc a ha)
  have hpackets : ((Watch.start.trace site acts).map F.event).filter FilterEvent.isPacket =
      ((Watch.start.trace site acts).filter FilterCall.isPacket).map F.event := by
    rw [List.filter_map]
    congr 1
    refine List.filter_congr fun call _ => ?_
    exact FilterCall.isPacket_event _ _ call
  calc (F.view (afterRun F site k acts)).seen c
      = ((F.view k).run ((Watch.start.trace site acts).map F.event)).seen c := by
        refine Filter.Laws.seen_run hF ?_ k
        intro b hb hcovers
        cases (hadd b hb).symm.trans hcovers
    _ = ((F.view k).run (((Watch.start.trace site acts).filter FilterCall.isPacket).map
          F.event)).seen c := by
        rw [StateTable.seen_run hspared, hpackets]
    _ = (F.view (F.run k ((Watch.start.trace site acts).filter FilterCall.isPacket))).seen c := by
        refine (Filter.Laws.seen_run hF ?_ k).symm
        intro b hb
        cases (List.mem_filter.1 hb).2

theorem ban_spares_watch :
    (watchFilter.view (afterRun watchFilter watchSite ([], []) watch)).seen
        ⟨.inet, [192, 0, 2, 130], rfl⟩ =
      (watchFilter.view (watchFilter.run ([], [])
        ((Watch.start.trace watchSite watch).filter FilterCall.isPacket))).seen
          ⟨.inet, [192, 0, 2, 130], rfl⟩ :=
  ban_spares watchFilter (quickFilter_lawful _ _) watchSite LibC.numeric_numericLookup ([], []) watch _
    (by decide +kernel)

end Enforcement
end Banip
