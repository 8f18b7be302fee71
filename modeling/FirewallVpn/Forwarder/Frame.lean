import FirewallVpn.Forwarder.Ownership

/-! What an effect leaves alone: the map entry, the socket and the upstream bytes
of a flow change only through effects of coroutines with the flow's own key. -/

set_option autoImplicit false

namespace FirewallVpn

namespace Forwarder

/-- The bytes handed to a remote socket, write by write, each with the index of
the coroutine that wrote it. -/
def upstreamWrites (socket : Nat) (forwarder : Forwarder) : List (Nat × List UInt8) :=
  forwarder.outputs.filterMap fun output =>
    match output.task, output.content with
    | some index, .upstream connection payload =>
        if connection.socket = socket then some (index, payload) else none
    | _, _ => none

/-- The writes an effect of the coroutine at `index` adds to a socket. -/
def effectWrites (socket index : Nat) : Effect → List (Nat × List UInt8)
  | .output (.upstream connection payload) =>
      if connection.socket = socket then [(index, payload)] else []
  | _ => []

theorem upstreamWrites_perform (socket index : Nat) (forwarder : Forwarder) (call : ForwardCall)
    (effect : Effect) :
    upstreamWrites socket (forwarder.perform index call effect) =
      upstreamWrites socket forwarder ++ effectWrites socket index effect := by
  cases effect with
  | output content =>
      simp only [upstreamWrites, perform, List.filterMap_append]
      congr 1
      cases content with
      | upstream connection payload =>
          by_cases same : connection.socket = socket <;> simp [effectWrites, same]
      | passThrough | udpResponse | synAck | data | datagram => rfl
  | none | newDatagramSocket | closeDatagramSocket | newSocket | connect | close | register | remove
  | launch => exact (List.append_nil _).symm

private theorem elim_closed_modify {sockets : List TcpSocket} {change : TcpSocket → TcpSocket}
    {index other : Nat}
    (same : index = other → ∀ opened, (change opened).closed = opened.closed) :
    ((sockets.modify index change)[other]?).elim true TcpSocket.closed =
      (sockets[other]?).elim true TcpSocket.closed := by
  cases located : sockets[other]? with
  | none => simp [List.getElem?_modify, located]
  | some opened =>
      by_cases changed : index = other
      · simp [located, changed, same changed]
      · simp [located, changed]

theorem isClosed_connect (forwarder : Forwarder) (index other : Nat) (call : ForwardCall)
    (socket : Nat) :
    (forwarder.perform index call (.connect socket)).isClosed other = forwarder.isClosed other :=
  elim_closed_modify fun _ _ => rfl

theorem isClosed_close_other {forwarder : Forwarder} {socket other : Nat} (distinct : other ≠ socket)
    (index : Nat) (call : ForwardCall) :
    (forwarder.perform index call (.close other)).isClosed socket = forwarder.isClosed socket := by
  rw [isClosed, perform, closeSocket, List.getElem?_modify_ne _ _ distinct, isClosed]

theorem isClosed_newSocket {forwarder : Forwarder} {socket : Nat} {key : String}
    (owned : forwarder.owner socket = some key) (index : Nat) (call : ForwardCall) :
    (forwarder.perform index call .newSocket).isClosed socket = forwarder.isClosed socket := by
  simp only [isClosed, perform, List.getElem?_append_left (owner_lt owned)]

/-! A closed socket stays closed. -/

private theorem closed_modify (sockets : List TcpSocket) {change : TcpSocket → TcpSocket}
    (kept : ∀ opened, opened.closed → (change opened).closed) (index other : Nat)
    (closed : (sockets[other]?).elim true TcpSocket.closed = true) :
    ((sockets.modify index change)[other]?).elim true TcpSocket.closed = true := by
  rw [List.getElem?_modify]
  cases located : sockets[other]? with
  | none => rfl
  | some opened =>
      rw [located] at closed
      by_cases changed : index = other
      · simp only [changed, if_true]
        exact kept opened closed
      · simp only [changed, if_false]
        exact closed

theorem isClosed_perform {forwarder : Forwarder} {socket : Nat} {key : String}
    (owned : forwarder.owner socket = some key) (index : Nat) (call : ForwardCall) (effect : Effect)
    (closed : forwarder.isClosed socket) :
    (forwarder.perform index call effect).isClosed socket := by
  cases effect with
  | newSocket =>
      rw [isClosed_newSocket owned]
      exact closed
  | connect other =>
      rw [isClosed_connect]
      exact closed
  | close other => exact closed_modify _ (fun _ _ => rfl) other socket closed
  | none | newDatagramSocket | closeDatagramSocket | register | remove | output | launch => exact closed

theorem isClosed_closeAll {forwarder : Forwarder} {socket : Nat} (closed : forwarder.isClosed socket) :
    forwarder.closeAll.isClosed socket :=
  closeAll_preserves (fun sockets => (sockets[socket]?).elim true TcpSocket.closed = true) closed
    fun _ closed _ _ => closed_modify _ (fun _ _ => rfl) _ _ closed

theorem closed_closeSocket (sockets : List TcpSocket) (socket : Nat) :
    ((closeSocket sockets socket)[socket]?).elim true TcpSocket.closed = true := by
  rw [closeSocket, List.getElem?_modify_eq]
  cases sockets[socket]? <;> rfl

theorem closeAll_closes {forwarder : Forwarder} {key : String} {connection : TcpConnection}
    (located : forwarder.tcpConnections.lookup key = some connection) :
    forwarder.closeAll.isClosed connection.socket := by
  have member := AList.mem_lookup_iff.mp located
  change ((forwarder.tcpConnections.entries.foldl
    (fun sockets entry => closeSocket sockets entry.snd.socket) forwarder.sockets)[
      connection.socket]?).elim true TcpSocket.closed = true
  generalize forwarder.sockets = sockets
  generalize forwarder.tcpConnections.entries = entries at member
  induction entries generalizing sockets with
  | nil => cases member
  | cons entry entries ih =>
      rw [List.foldl_cons]
      rcases List.mem_cons.mp member with rfl | later
      · refine List.foldlRecOn (motive := fun sockets =>
          (sockets[connection.socket]?).elim true TcpSocket.closed = true) _ _ ?_ ?_
        · exact closed_closeSocket sockets connection.socket
        · exact fun _ closed _ _ => closed_modify _ (fun _ _ => rfl) _ _ closed
      · exact ih _ later

/-- The closing pass closes nothing but sockets of the map. -/
theorem closeAll_spares {forwarder : Forwarder} {socket : Nat}
    (opened : forwarder.isClosed socket = false)
    (unfiled : ∀ key connection, forwarder.tcpConnections.lookup key = some connection →
      connection.socket ≠ socket) : forwarder.closeAll.isClosed socket = false := by
  refine closeAll_preserves (fun sockets => (sockets[socket]?).elim true TcpSocket.closed = false)
    opened ?_
  intro sockets opened entry member
  have distinct := unfiled entry.fst entry.snd (AList.mem_lookup_iff.mpr member)
  rw [closeSocket, List.getElem?_modify_ne _ _ distinct]
  exact opened

theorem perform_lookup {forwarder : Forwarder} {call : ForwardCall} {effect : Effect} {key : String}
    (owns : OwnsEffect forwarder call.key effect) (foreign : call.key ≠ key) (index : Nat) :
    (forwarder.perform index call effect).tcpConnections.lookup key =
      forwarder.tcpConnections.lookup key := by
  cases effect with
  | register filed connection =>
      obtain ⟨rfl, -⟩ := owns
      exact AList.lookup_insert_ne foreign.symm
  | remove filed =>
      subst owns
      exact AList.lookup_erase_ne foreign.symm
  | none | newDatagramSocket | closeDatagramSocket | newSocket | connect | close | output | launch => rfl

theorem perform_sockets {forwarder : Forwarder} {call : ForwardCall} {effect : Effect} {key : String}
    {socket : Nat} (owns : OwnsEffect forwarder call.key effect) (foreign : call.key ≠ key)
    (owned : forwarder.owner socket = some key) (index : Nat) :
    (forwarder.perform index call effect).sockets[socket]? = forwarder.sockets[socket]? := by
  have distinct : ∀ other, forwarder.owner other = some call.key → other ≠ socket := by
    rintro other otherOwned rfl
    rw [owned, Option.some.injEq] at otherOwned
    exact foreign otherOwned.symm
  cases effect with
  | newSocket => exact List.getElem?_append_left (owner_lt owned)
  | connect other | close other => exact List.getElem?_modify_ne _ _ (distinct other owns)
  | none | newDatagramSocket | closeDatagramSocket | register | remove | output | launch => rfl

theorem perform_owner {forwarder : Forwarder} {call : ForwardCall} {key : String} {socket : Nat}
    (foreign : call.key ≠ key) {index : Nat} {effect : Effect}
    (owned : (forwarder.perform index call effect).owner socket = some key) :
    forwarder.owner socket = some key := by
  cases effect with
  | newSocket =>
      by_cases new : socket = forwarder.sockets.length
      · subst new
        rw [owner, perform, List.getElem?_concat_length, Option.map_some, Option.some.injEq] at owned
        exact absurd owned foreign
      · rw [owner, perform, List.getElem?_append] at owned
        split at owned
        · exact owned
        · next beyond => simp [show socket - forwarder.sockets.length ≠ 0 by omega] at owned
  | connect other =>
      rw [← owned]
      exact (owner_modify _ (fun _ => by rfl) other socket).symm
  | close other =>
      rw [← owned]
      exact (owner_closeSocket _ other socket).symm
  | none | newDatagramSocket | closeDatagramSocket | register | remove | output | launch => exact owned

/-- Effects of another flow change neither the entry nor the socket of this one. -/
theorem perform_frame {forwarder : Forwarder} {call : ForwardCall} {effect : Effect} {key : String}
    {socket : Nat} (owns : OwnsEffect forwarder call.key effect) (foreign : call.key ≠ key)
    (owned : forwarder.owner socket = some key) (index : Nat) :
    (forwarder.perform index call effect).tcpConnections.lookup key =
        forwarder.tcpConnections.lookup key ∧
      (forwarder.perform index call effect).isClosed socket = forwarder.isClosed socket ∧
      effectWrites socket index effect = [] := by
  have sameSocket : (forwarder.perform index call effect).isClosed socket =
      forwarder.isClosed socket := by
    rw [isClosed, perform_sockets owns foreign owned, isClosed]
  refine ⟨perform_lookup owns foreign index, sameSocket, ?_⟩
  cases effect with
  | output content =>
      cases content with
      | upstream connection payload =>
          refine if_neg fun same => ?_
          have writer : forwarder.owner connection.socket = some call.key := owns.1
          rw [same, owned, Option.some.injEq] at writer
          exact foreign writer.symm
      | passThrough | udpResponse | synAck | data | datagram => rfl
  | none | newDatagramSocket | closeDatagramSocket | newSocket | connect | close | register | remove
  | launch => rfl

end Forwarder

end FirewallVpn
