-- SUMMARY: The ports typed on the two command lines: what the server binds and what the client asks the resolver for.
import BeeRType.Base.Decimal
import BeeRType.Base.Fallible

/-!
# Ports

Both programs read a port with `std::stoi` and keep it in a `short`. The server
hands the `short` to an endpoint, whose port is unsigned; the client prints it
for the resolver. The first path keeps the number up to 65535, the second only up
to 32767, and neither looks whether the number has survived.
-/

open Cpp Fallible

namespace BeeRType

namespace Ports

structure InvalidPortException where
  message : String
  type : String := "InvalidPortException"
  deriving DecidableEq, Repr

/-- `parsePort`, on the arguments after the name of the program too. -/
def parsePort : List Bytes → Except InvalidPortException Int16
  | [_, port] =>
    match stoi port with
    | .ok n => .ok n.toInt16
    | .error _ => .error { message := "Invalid port number" }
  | _ => .error { message := "Invalid number of arguments" }

/-- The port of `udp::endpoint(udp::v4(), port)`. -/
def endpointPort (port : Int16) : UInt16 := port.toUInt16

/-- The port number that the `Server` passes to `bind`. For `0` the system picks a port. -/
def serverBinds (av : List Bytes) : Except InvalidPortException UInt16 :=
  (parsePort av).map endpointPort

/-- How `main` of the client ends before there is a client. -/
inductive ClientExit where
  /-- It returns 84. -/
  | usage
  | uncaught (e : StdException)
  deriving DecidableEq, Repr

/-- What the constructor of `Client` does on the network: the port it binds, and
its query to the resolver. -/
structure Connection where
  localPort : UInt16
  host : Bytes
  service : Bytes
  deriving DecidableEq, Repr

def connect (host : Bytes) (serverPort clientPort : Int16) : Connection where
  localPort := endpointPort clientPort
  host := host
  service := toStringInt serverPort.toInt

/-- `main` of the client, up to the constructor of `Client`. -/
def clientMain : List Bytes → Except ClientExit Connection
  | [_, host, server, client] => do
    let serverPort ← (stoi server).mapError .uncaught
    let clientPort ← (stoi client).mapError .uncaught
    .ok (connect host serverPort.toInt16 clientPort.toInt16)
  | _ => .error .usage

/-! ## What narrowing keeps -/

variable {n : Int32} {program host text clientText : Bytes} {port : UInt16} {connection : Connection}

theorem toNat_endpointPort (n : Int32) :
    ((endpointPort n.toInt16).toNat : Int) = n.toInt % 65536 := by
  have hbmod : n.toInt16.toInt = n.toInt.bmod (2 ^ 16) := n.toInt_toInt16
  have hport : (endpointPort n.toInt16).toNat = n.toInt16.toBitVec.toNat := rfl
  have hsigned : n.toInt16.toInt = n.toInt16.toBitVec.toInt := rfl
  have hlt : n.toInt16.toBitVec.toNat < 2 ^ 16 := n.toInt16.toBitVec.isLt
  rw [hsigned, BitVec.toInt_eq_toNat_bmod] at hbmod
  have hmod := congrArg (· % ((2 ^ 16 : Nat) : Int)) hbmod
  simp only [Int.bmod_emod] at hmod
  omega

theorem toInt_toInt16_eq_self (n : Int32) :
    n.toInt16.toInt = n.toInt ↔ -32768 ≤ n.toInt ∧ n.toInt ≤ 32767 := by
  rw [n.toInt_toInt16, Int.bmod_eq_iff (by decide)]
  omega

theorem serverBinds_of_stoi (h : stoi text = .ok n) :
    serverBinds [program, text] = .ok (endpointPort n.toInt16) := by
  simp [serverBinds, parsePort, h, Except.map]

/-- The client's own port does not change what it asks for. -/
theorem service_of_stoi (h : stoi text = .ok n)
    (hmain : clientMain [program, host, text, clientText] = .ok connection) :
    connection.service = toStringInt n.toInt16.toInt := by
  obtain ⟨serverPort, hserver, hmain⟩ := bind_eq_ok.mp hmain
  obtain ⟨clientPort, -, hmain⟩ := bind_eq_ok.mp hmain
  rw [h] at hserver
  cases hserver
  cases hmain
  rfl

/-! ## A typed port -/

/-- The number `n` means itself as a port: whatever text it was typed as, each
program rejects it or takes it for the UDP port `n`, and so the two agree. -/
structure MeansTyped (n : Int32) : Prop where
  server : ∀ program text port, stoi text = .ok n → serverBinds [program, text] = .ok port →
    (port.toNat : Int) = n.toInt
  client : ∀ program host text clientText connection, stoi text = .ok n →
    clientMain [program, host, text, clientText] = .ok connection →
    connection.service = toStringInt n.toInt
  agree : ∀ program program' host text clientText port connection, stoi text = .ok n →
    serverBinds [program, text] = .ok port →
    clientMain [program', host, text, clientText] = .ok connection →
    connection.service = toStringNat port.toNat

theorem serverBinds_eq_iff :
    (∀ program text port, stoi text = .ok n → serverBinds [program, text] = .ok port →
      (port.toNat : Int) = n.toInt) ↔ 0 ≤ n.toInt ∧ n.toInt ≤ 65535 := by
  have hport := toNat_endpointPort n
  constructor
  · intro h
    have := h [] _ _ (stoi_toStringInt_self n) (serverBinds_of_stoi (stoi_toStringInt_self n))
    omega
  · intro h program text port htext hbinds
    rw [serverBinds_of_stoi htext] at hbinds
    cases hbinds
    omega

theorem clientMain_eq_iff :
    (∀ program host text clientText connection, stoi text = .ok n →
      clientMain [program, host, text, clientText] = .ok connection →
      connection.service = toStringInt n.toInt) ↔ -32768 ≤ n.toInt ∧ n.toInt ≤ 32767 := by
  rw [← toInt_toInt16_eq_self]
  constructor
  · intro h
    have htext := stoi_toStringInt_self n
    have hservice := h [] [] _ (toStringInt n.toInt) (connect [] n.toInt16 n.toInt16) htext
      (by simp only [clientMain, htext]; rfl)
    exact toStringInt_injective hservice
  · intro h program host text clientText connection htext hmain
    rw [service_of_stoi htext hmain, h]

/-- A typed port means itself exactly if it is at most 32767: above, the client
asks for a negative number, and from 65536 on the server binds another port. -/
theorem meansTyped_iff (n : Int32) : MeansTyped n ↔ 0 ≤ n.toInt ∧ n.toInt ≤ 32767 := by
  constructor
  · intro h
    have hserver := serverBinds_eq_iff.mp h.server
    have hclient := clientMain_eq_iff.mp h.client
    omega
  · intro h
    have hserver := (serverBinds_eq_iff (n := n)).mpr ⟨h.1, by omega⟩
    have hclient := (clientMain_eq_iff (n := n)).mpr ⟨by omega, h.2⟩
    refine ⟨hserver, hclient, ?_⟩
    intro program program' host text clientText port connection htext hbinds hmain
    have hport := hserver program text port htext hbinds
    rw [hclient program' host text clientText connection htext hmain, ← hport]
    simp [toStringInt]

/-- The server started with 70000 binds port 4464. -/
theorem not_meansTyped_70000 : ¬ MeansTyped 70000 := by
  intro h
  have hbinds : serverBinds [str "r-type_server", str "70000"] = .ok 4464 := by decide
  have hport := h.server _ _ _ (by decide) hbinds
  exact absurd hport (by decide)

end Ports

end BeeRType
