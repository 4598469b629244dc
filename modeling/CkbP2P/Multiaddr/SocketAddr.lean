import CkbP2P.Lib.Pairs
import CkbP2P.Multiaddr.Ops

/-!
# Socket addresses

An address that can be dialled over the internet has an `/ip4` or `/ip6` component and
right after it a `/tcp` component.  `multiaddr_to_socketaddr` looks for them from the front.
Once it has seen an IP address it takes this component and the next one out of the iterator
together; so of `/ip4/…/ip4/…/tcp/…` it never looks at the second half.
-/

namespace CkbP2P

open Lib

/-! ### IP addresses -/

/-- An IP address. -/
inductive IpAddr where
  | v4 (a b c d : UInt8)
  | v6 (a b c d e f g h : UInt16)
  deriving DecidableEq, Repr

/-- The scope of an IPv6 multicast address, where it decides. -/
def multicastScope (a : UInt16) : Option Bool :=
  if a &&& 0xff00 = 0xff00 then
    match (a &&& 0x000f).toNat with
    | 1 | 2 | 3 | 4 | 5 | 8 => some false
    | 14 => some true
    | _ => none
  else none

/-- `is_reachable`. -/
def isReachable : IpAddr → Bool
  | .v4 a b c d =>
    !(a == 10 || (a == 172 && b &&& 0xf0 == 16) || (a == 192 && b == 168)) -- private
      && a != 127 -- loopback
      && !(a == 169 && b == 254) -- link local
      && !(a == 255 && b == 255 && c == 255 && d == 255) -- broadcast
      && !((a == 192 && b == 0 && c == 2) || (a == 198 && b == 51 && c == 100)
        || (a == 203 && b == 0 && c == 113)) -- documentation
      && !(a == 0 && b == 0 && c == 0 && d == 0) -- unspecified
  | .v6 a b c d e f g h =>
    match multicastScope a with
    | some reachable => reachable
    | none =>
      !(a &&& 0xff00 == 0xff00 -- multicast
        || [a, b, c, d, e, f, g, h] == [0, 0, 0, 0, 0, 0, 0, 1] -- loopback
        || a &&& 0xffc0 == 0xfe80 -- link local
        || a &&& 0xffc0 == 0xfec0 -- site local
        || a &&& 0xfe00 == 0xfc00 -- unique local
        || [a, b, c, d, e, f, g, h] == [0, 0, 0, 0, 0, 0, 0, 0] -- unspecified
        || (a == 0x2001 && b == 0xdb8)) -- documentation

/-- A socket address. -/
structure SocketAddr where
  ip : IpAddr
  port : UInt16
  deriving DecidableEq, Repr

/-! ### Conversions -/

/-- Whether a component is an IP address. -/
def Protocol.isIp : Protocol → Bool
  | .ip4 .. | .ip6 .. => true
  | _ => false

/-- The loop of `multiaddr_to_socketaddr`, over what is left of the iterator. -/
def socketaddrLoop : List Protocol → Option SocketAddr
  | [] => none
  | proto1 :: iter =>
    if proto1.isIp then
      match iter with
      | [] => none
      | proto2 :: iter =>
        match proto1, proto2 with
        | .ip4 a b c d, .tcp port => some ⟨.v4 a b c d, port⟩
        | .ip6 a b c d e f g h, .tcp port => some ⟨.v6 a b c d e f g h, port⟩
        | _, _ => socketaddrLoop iter
    else socketaddrLoop iter

/-- `multiaddr_to_socketaddr`. -/
def multiaddrToSocketaddr (addr : Multiaddr) : Option SocketAddr := socketaddrLoop addr.iter

/-- `collect`, of components that can be written. -/
def Multiaddr.collect (ps : List Protocol) (h : ∀ p ∈ ps, p.Valid) : Multiaddr where
  bytes := Raw.fromIter ps
  valid := ⟨ps, Raw.iter_eq_ok_iff.mp (Raw.iter_fromIter h)⟩

@[simp] theorem Multiaddr.iter_collect {ps : List Protocol} (h : ∀ p ∈ ps, p.Valid) :
    (collect ps h).iter = ps := by
  have hmany := (collect ps h).many_bytes
  rw [← Raw.iter_eq_ok_iff] at hmany
  exact Except.ok.inj (hmany.symm.trans (Raw.iter_fromIter h))

/-! ### The first pair -/

/-- The IP address of a component. -/
def Protocol.ip : Protocol → Option IpAddr
  | .ip4 a b c d => some (.v4 a b c d)
  | .ip6 a b c d e f g h => some (.v6 a b c d e f g h)
  | _ => none

/-- The port of a component. -/
def Protocol.port : Protocol → Option UInt16
  | .tcp port => some port
  | _ => none

/-- **The loop is a scan** for an IP address with a port right after it. -/
theorem socketaddrLoop_eq_scan (ps : List Protocol) :
    socketaddrLoop ps = (Pairs.scan Protocol.ip Protocol.port ps).map fun p => ⟨p.1, p.2⟩ := by
  fun_induction socketaddrLoop ps with
  | case1 => rfl
  | case2 proto1 hip => cases proto1 <;> rfl
  | case3 => rfl
  | case4 => rfl
  | case5 proto1 hip proto2 iter h4 h6 ih =>
    rw [ih]
    cases proto1 <;> cases hip
    · cases proto2 <;> first | rfl | exact (h4 _ _ _ _ _ rfl rfl).elim
    · cases proto2 <;> first | rfl | exact (h6 _ _ _ _ _ _ _ _ _ rfl rfl).elim
  | case6 proto1 iter hip ih =>
    rw [ih]
    cases proto1 <;> first | rfl | exact (hip rfl).elim

theorem multiaddrToSocketaddr_eq_some_iff (addr : Multiaddr) (p : IpAddr × UInt16) :
    multiaddrToSocketaddr addr = some ⟨p.1, p.2⟩ ↔
      Pairs.scan Protocol.ip Protocol.port addr.iter = some p := by
  rw [multiaddrToSocketaddr, socketaddrLoop_eq_scan, Option.map_eq_some_iff]
  constructor
  · rintro ⟨q, hq, heq⟩
    rw [hq, Prod.ext (congrArg SocketAddr.ip heq) (congrArg SocketAddr.port heq)]
  · exact fun h => ⟨p, h, rfl⟩

theorem multiaddrToSocketaddr_eq_none_iff (addr : Multiaddr) :
    multiaddrToSocketaddr addr = none ↔
      Pairs.scan Protocol.ip Protocol.port addr.iter = none := by
  rw [multiaddrToSocketaddr, socketaddrLoop_eq_scan, Option.map_eq_none_iff]

/-- **When the first position counts.**  The socket address is that of the first position
where an IP address has a port right after it, and there is none exactly when there is no
such position, if and only if the first position of this kind at the end of an odd number of
IP addresses in a row has the socket address of the first position of all. -/
theorem socketaddr_first_iff (addr : Multiaddr) :
    ((∀ i p, Pairs.First Protocol.ip Protocol.port addr.iter (fun _ => True) i p →
        multiaddrToSocketaddr addr = some ⟨p.1, p.2⟩) ∧
      (multiaddrToSocketaddr addr = none ↔
        ∀ i, Pairs.pairAt Protocol.ip Protocol.port addr.iter i = none)) ↔
    ∀ i p, Pairs.First Protocol.ip Protocol.port addr.iter (fun _ => True) i p →
      ∃ j, Pairs.First Protocol.ip Protocol.port addr.iter
        (fun i => Odd (Pairs.run Protocol.ip 0 addr.iter i)) j p := by
  rw [← Pairs.scan_eq_first_iff, multiaddrToSocketaddr_eq_none_iff]
  simp only [multiaddrToSocketaddr_eq_some_iff]

/-- `/ip4/10.0.0.1/ip4/127.0.0.1/tcp/1337`. -/
def twoHosts : Multiaddr :=
  .collect [.ip4 10 0 0 1, .ip4 127 0 0 1, .tcp 1337] (by
    intro p hp
    simp only [List.mem_cons, List.not_mem_nil, or_false] at hp
    rcases hp with rfl | rfl | rfl <;> trivial)

/-- **A second IP address hides the port**: at position one there is an IP address with a
port right after it, and none before, but no socket address is found. -/
theorem socketaddr_skipped :
    Pairs.First Protocol.ip Protocol.port twoHosts.iter (fun _ => True) 1
      (.v4 127 0 0 1, 1337) ∧ multiaddrToSocketaddr twoHosts = none := by
  rw [multiaddrToSocketaddr, twoHosts, Multiaddr.iter_collect]
  refine ⟨⟨rfl, trivial, ?_⟩, rfl⟩
  intro j hj hne
  obtain rfl : j = 0 := by omega
  exact absurd rfl hne

end CkbP2P
