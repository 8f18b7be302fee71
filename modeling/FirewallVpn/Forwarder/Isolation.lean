import FirewallVpn.Forwarder.Connected

/-! Flows do not get into each other's way: bytes go to the destination of their
packet, data comes back under the endpoints of the flow it was read for, and what
is done for one flow leaves the entry and the sockets of every other as they are. -/

set_option autoImplicit false

namespace FirewallVpn

namespace Forwarder

variable {pcpp : PcapPlusPlus}

def remoteOf (forwarder : Forwarder) (socket : Nat) : Option (String × Int) :=
  (forwarder.sockets[socket]?).bind TcpSocket.remote

/-- The packet was built from bytes that the reader of `connection` has read. -/
def BuiltFrom (forwarder : Forwarder) (connection : TcpConnection) (packet : List UInt8) : Prop :=
  ∃ call responseData,
    ⟨call, .reader connection (.write responseData packet)⟩ ∈ forwarder.tasks ∨
      ∃ task, ⟨task, call, .data connection responseData packet⟩ ∈ forwarder.outputs

/-- The step is taken for a packet of the flow. -/
def Serves (forwarder : Forwarder) (endpoints : Endpoints) : Label → Prop
  | .forwardPacket call _ => call.traffic.Reports endpoints
  | .task index _ => ∃ task ∈ forwarder.tasks[index]?, task.call.traffic.Reports endpoints
  | .overwrite _ | .cleanup | .clear => False

theorem ConnectedTo.remoteOf {forwarder : Forwarder} {socket : Nat} {endpoints : Endpoints}
    (connected : forwarder.ConnectedTo socket endpoints) :
    forwarder.remoteOf socket = some (endpoints.dst.toString, (endpoints.portDst.toNat : Int)) := by
  obtain ⟨opened, located, -, remote⟩ := connected
  rw [Forwarder.remoteOf, Option.mem_def.mp located, Option.bind_some, remote]

theorem ConnectedTo.owner {forwarder : Forwarder} {socket : Nat} {endpoints : Endpoints}
    (connected : forwarder.ConnectedTo socket endpoints) :
    forwarder.owner socket = some endpoints.key := by
  obtain ⟨opened, located, openedFor, -⟩ := connected
  rw [Forwarder.owner, Option.mem_def.mp located, Option.map_some, openedFor]

private theorem upstream_remote {forwarder : Forwarder} (all : Connected forwarder)
    (built : AllJobs (HoldsBuilt pcpp) (Built pcpp) forwarder) {output : Output}
    (written : output ∈ forwarder.outputs) {connection : TcpConnection} {payload : List UInt8}
    (upstream : output.content = .upstream connection payload) :
    forwarder.remoteOf connection.socket =
      some (output.call.traffic.dstIp, output.call.traffic.dstPort) := by
  obtain ⟨endpoints, reported, connected⟩ := all.outputs output written
  have protocol := (built.2 output written).1
  rw [upstream] at connected protocol
  have known : output.call.traffic.protocolByte ≠ .unknown := by
    rw [protocol]
    exact nofun
  rw [ConnectedTo.remoteOf connected, reported.2.1, (reported.2.2 known).2]

private theorem data_endpoints {forwarder : Forwarder} (all : Connected forwarder)
    (built : AllJobs (HoldsBuilt pcpp) (Built pcpp) forwarder) {connection : TcpConnection}
    {packet : List UInt8} (read : BuiltFrom forwarder connection packet) :
    ∃ opener, forwarder.ConnectedTo connection.socket opener ∧ ipSource packet = opener.dst ∧
      sourcePort packet = opener.portDst ∧ destinationPort packet = opener.portSrc := by
  obtain ⟨call, responseData, member | ⟨task, written⟩⟩ := read
  · obtain ⟨endpoints, reported, connected⟩ := all.tasks _ member
    have returned : Built pcpp call (.data connection responseData packet) := built.1 _ member
    obtain ⟨source, -, fromPort, toPort⟩ := returned.data_addressed reported
    exact ⟨endpoints, connected, source, fromPort, toPort⟩
  · obtain ⟨endpoints, reported, connected⟩ := all.outputs _ written
    have returned : Built pcpp call (.data connection responseData packet) := built.2 _ written
    obtain ⟨source, -, fromPort, toPort⟩ := returned.data_addressed reported
    exact ⟨endpoints, connected, source, fromPort, toPort⟩

private theorem key_ne {forwarder : Forwarder} (all : Connected forwarder)
    (built : AllJobs (HoldsBuilt pcpp) (Built pcpp) forwarder) {task : Task}
    (member : task ∈ forwarder.tasks) {other : Endpoints}
    (foreign : ¬ task.call.traffic.Reports other) : task.call.key ≠ other.key := by
  obtain ⟨endpoints, reported, -⟩ := all.tasks task member
  have known : task.call.traffic.protocolByte ≠ .unknown := by
    rw [(built.1 task member).1]
    cases task.job <;> exact nofun
  intro same
  rw [reported.key known] at same
  exact foreign (Endpoints.eq_of_key_eq same ▸ reported)

private theorem step_leaves {forwarder next : Forwarder} {label : Label} (owned : Owned forwarder)
    (all : Connected forwarder) (built : AllJobs (HoldsBuilt pcpp) (Built pcpp) forwarder)
    (taken : step pcpp forwarder label = some next) (notCleanup : label ≠ .cleanup)
    (notClear : label ≠ .clear) {other : Endpoints} (foreign : ¬ Serves forwarder other label) :
    next.tcpConnections.lookup other.key = forwarder.tcpConnections.lookup other.key ∧
      ∀ socket, forwarder.owner socket = some other.key ∨ next.owner socket = some other.key →
        next.sockets[socket]? = forwarder.sockets[socket]? := by
  cases step_forwarder taken with
  | overwritten | launched | passedThrough | passThroughFailed => exact ⟨rfl, fun _ _ => rfl⟩
  | closedAll => exact absurd rfl notCleanup
  | cleared => exact absurd rfl notClear
  | @resumed index task answer effect job located stepped =>
      have member := List.mem_of_getElem? located
      have distinct := key_ne all built member fun reported => foreign ⟨task, located, reported⟩
      obtain ⟨ownsEffect, -⟩ := stepped.owns owned (owned.tasks task member) index
      refine ⟨perform_lookup ownsEffect distinct index, fun socket owner => ?_⟩
      have before : forwarder.owner socket = some other.key :=
        owner.elim id fun after => perform_owner distinct after
      exact perform_sockets ownsEffect distinct before index

/-- Isolation of flows, in every reachable state and for every next step. -/
theorem flows_isolated {labels : List Label} {final : Forwarder}
    (printed : ∀ label ∈ labels, label.Printed)
    (ran : Transition.run (step pcpp) initial labels = some final) :
    (∀ output ∈ final.outputs, ∀ connection payload,
      output.content = .upstream connection payload →
        final.remoteOf connection.socket =
          some (output.call.traffic.dstIp, output.call.traffic.dstPort)) ∧
    (∀ connection packet, BuiltFrom final connection packet →
      ∃ opener : Endpoints, final.owner connection.socket = some opener.key ∧
        final.remoteOf connection.socket =
          some (opener.dst.toString, (opener.portDst.toNat : Int)) ∧
        ipSource packet = opener.dst ∧ sourcePort packet = opener.portDst ∧
        destinationPort packet = opener.portSrc) ∧
    ∀ label next, step pcpp final label = some next → label ≠ .cleanup → label ≠ .clear →
      ∀ other : Endpoints, ¬ Serves final other label →
        next.tcpConnections.lookup other.key = final.tcpConnections.lookup other.key ∧
          ∀ socket, final.owner socket = some other.key ∨ next.owner socket = some other.key →
            next.sockets[socket]? = final.sockets[socket]? := by
  have all := connected_of_run printed ran
  have owned := owned_of_run ran
  have built := (builtInvariant pcpp).run ran
  refine ⟨?_, ?_, ?_⟩
  · intro output written connection payload upstream
    exact upstream_remote all built written upstream
  · intro connection packet read
    obtain ⟨opener, connected, source, fromPort, toPort⟩ := data_endpoints all built read
    exact ⟨opener, connected.owner, connected.remoteOf, source, fromPort, toPort⟩
  · intro label next taken notCleanup notClear other foreign
    exact step_leaves owned all built taken notCleanup notClear foreign

theorem handshake_isolated :
    ∃ final, Transition.run (step .headerRules) initial (handshake 7 ++ readChunk [0x48, 0x69]) =
        some final ∧
      ∀ connection packet, BuiltFrom final connection packet →
        ∃ opener : Endpoints, final.owner connection.socket = some opener.key ∧
          final.remoteOf connection.socket =
            some (opener.dst.toString, (opener.portDst.toNat : Int)) ∧
          ipSource packet = opener.dst ∧ sourcePort packet = opener.portDst ∧
          destinationPort packet = opener.portSrc := by
  have observed : (Transition.run (step .headerRules) initial
      (handshake 7 ++ readChunk [0x48, 0x69])).isSome = true := by
    decide +kernel
  obtain ⟨final, ran⟩ := Option.isSome_iff_exists.mp observed
  have reported : (callOf (synPacket 7).bytes).traffic.Reports
      ⟨vpnAddress, 40000, ⟨93, 184, 216, 34⟩, 443⟩ := by
    decide +kernel
  have printed : ∀ label ∈ handshake 7 ++ readChunk [0x48, 0x69], label.Printed := by
    simp only [handshake, readChunk, List.replicate, List.cons_append, List.nil_append,
      List.forall_mem_cons, Label.Printed, List.not_mem_nil, and_true, true_and,
      IsEmpty.forall_iff, implies_true]
    exact ⟨_, reported⟩
  exact ⟨final, ran, (flows_isolated printed ran).2.1⟩

end Forwarder

end FirewallVpn
