-- SUMMARY: Datagrams that `parseMessage` does not read to its end: which of them throw, and what the others leave behind.
import BeeRType.Client.Client

/-!
# Rejected datagrams

`substr(2)` stands before the `try` block of `parseMessage`. Inside the block the
mailbox is filled field by field while the conversions go on, so that a conversion
that fails leaves what the ones before it have stored.
-/

open Cpp

namespace BeeRType

attribute [ext] PacketData

namespace Client

/-- The six conversions of the `try` block, of which one fails. -/
def ConversionFails (elements : List Bytes) : Prop :=
  (stoi (elements.getD 0 [])).isOk = false ∨ (stof (elements.getD 1 [])).isOk = false ∨
    (stof (elements.getD 2 [])).isOk = false ∨ (stof (elements.getD 3 [])).isOk = false ∨
    (stof (elements.getD 4 [])).isOk = false ∨ (stoi (elements.getD 5 [])).isOk = false

/-- Not six fields, or fields that do not convert. Those of a heartbeat are not
converted. -/
def Rejected (data : Bytes) : Prop :=
  let elements := deserialisePacket (data.drop 2)
  elements = [] ∨ data.head? ≠ some PacketType.heartbeat.byte ∧ ConversionFails elements

/-- The mailbox holds the type already, and each field that is converted before the
first conversion that fails. -/
def Stored (p : PacketData) (packetType : UInt8) (elements : List Bytes) : Prop :=
  p.action = packetType.toNat ∧
    ∀ serverId, stoi (elements.getD 0 []) = .ok serverId → p.serverId = serverId ∧
    ∀ newX, stof (elements.getD 1 []) = .ok newX → p.newX = newX ∧
    ∀ newY, stof (elements.getD 2 []) = .ok newY → p.newY = newY ∧
    ∀ newVx, stof (elements.getD 3 []) = .ok newVx → p.newVx = newVx ∧
    ∀ newVy, stof (elements.getD 4 []) = .ok newVy → p.newVy = newVy

/-- The datagram has no six fields, or brings nothing that the mailbox does not
hold. -/
def NothingNew (p : PacketData) (data : Bytes) : Prop :=
  let elements := deserialisePacket (data.drop 2)
  elements = [] ∨ ∀ packetType ∈ data.head?, Stored p packetType elements

/-- The state that a packet changes. -/
def Unchanged (c c' : Client) : Prop :=
  c'.packetData = c.packetData ∧ c'.lastPacketnb = c.lastPacketnb ∧ c'.lagMeter = c.lagMeter

instance (elements : List Bytes) : Decidable (ConversionFails elements) := by
  unfold ConversionFails
  infer_instance

instance (data : Bytes) : Decidable (Rejected data) := by
  unfold Rejected
  infer_instance

variable {c c' : Client} {now : ℚ} {data : Bytes} {packetType : UInt8} {elements : List Bytes}

/-! ## Exceptions -/

theorem exists_parseMessage (h : c.receivedData.length ≠ 1) :
    ∃ c', c.parseMessage now = .ok c' := by
  unfold parseMessage
  split
  · exact ⟨c, rfl⟩
  · rename_i hdata
    exact absurd (congrArg List.length hdata) h
  · dsimp only
    split_ifs
    · exact ⟨_, rfl⟩
    · exact ⟨_, rfl⟩
    · exact ⟨_, rfl⟩

theorem parseMessage_oneByte (h : c.receivedData.length = 1) :
    c.parseMessage now = .error (.outOfRange "basic_string::substr") := by
  obtain ⟨byte, hdata⟩ := List.length_eq_one_iff.mp h
  rw [parseMessage, hdata]

/-- Exactly the datagrams of one byte throw. -/
theorem parseMessage_returns_iff :
    (∃ c', c.parseMessage now = .ok c') ↔ c.receivedData.length ≠ 1 := by
  refine ⟨?_, exists_parseMessage⟩
  rintro ⟨c', hreturns⟩ hone
  rw [parseMessage_oneByte hone] at hreturns
  cases hreturns

/-- A new client that has received a datagram. -/
def received (data : Bytes) : Client :=
  { new ⟨0, 0, .finite 0, .finite 0, .finite 0, .finite 0⟩ ⟨1, 4242⟩ 0 with receivedData := data }

theorem parseMessage_throws : ¬ ∃ c', (received [1]).parseMessage 0 = .ok c' := by
  rintro ⟨c', hreturns⟩
  rw [parseMessage_oneByte rfl] at hreturns
  cases hreturns

/-! ## What a rejected datagram leaves behind -/

/-- One conversion: the client is as before if it is before the conversion and, should
the conversion succeed, after the rest of the block. -/
theorem tryAssign_unchanged_iff {α : Type} {c₀ : Client} {value : Except StdException α}
    {rest : α → Client} {before : Prop} {after : α → Prop} (hc : Unchanged c₀ c ↔ before)
    (hrest : ∀ a, value = .ok a → (Unchanged c₀ (rest a) ↔ before ∧ after a)) :
    Unchanged c₀ (c.tryAssign value rest) ↔ before ∧ ∀ a, value = .ok a → after a := by
  cases hvalue : value with
  | error e => simpa [tryAssign] using hc
  | ok a =>
      rw [tryAssign, hrest a hvalue]
      simp

/-- Only the mailbox has been written, field by field. -/
theorem unchanged_mailbox_iff {p : PacketData} :
    Unchanged c { c with packetData := p } ↔
      c.packetData.action = p.action ∧ c.packetData.serverId = p.serverId ∧
        c.packetData.newX = p.newX ∧ c.packetData.newY = p.newY ∧
        c.packetData.newVx = p.newVx ∧ c.packetData.newVy = p.newVy := by
  simp only [Unchanged, PacketData.ext_iff, and_true, eq_comm]

theorem parseElements_unchanged_iff (hfails : ConversionFails elements) :
    Unchanged c (c.parseElements packetType elements) ↔ Stored c.packetData packetType elements := by
  unfold parseElements Stored
  dsimp only
  refine tryAssign_unchanged_iff ?_ fun serverId h₀ => ?_
  · simp [unchanged_mailbox_iff]
  rw [← and_assoc]
  refine tryAssign_unchanged_iff ?_ fun newX h₁ => ?_
  · simp [unchanged_mailbox_iff]
  rw [← and_assoc]
  refine tryAssign_unchanged_iff ?_ fun newY h₂ => ?_
  · simp [unchanged_mailbox_iff, and_assoc]
  rw [← and_assoc]
  refine tryAssign_unchanged_iff ?_ fun newVx h₃ => ?_
  · simp [unchanged_mailbox_iff, and_assoc]
  rw [← and_assoc]
  refine tryAssign_unchanged_iff ?_ fun newVy h₄ => ?_
  · simp [unchanged_mailbox_iff, and_assoc]
  cases h₅ : stoi (elements.getD 5 []) with
  | error e => simp [tryAssign, unchanged_mailbox_iff, and_assoc]
  | ok packetnb =>
      simp only [ConversionFails, h₀, h₁, h₂, h₃, h₄, h₅, Except.isOk, Except.toBool,
        Bool.true_eq_false, or_self] at hfails

/-- A rejected datagram leaves the state as it was exactly if it brings nothing new. -/
theorem rejected_unchanged_iff (hrejected : Rejected c.receivedData)
    (h : c.parseMessage now = .ok c') :
    Unchanged c c' ↔ NothingNew c.packetData c.receivedData := by
  unfold parseMessage at h
  split at h
  · rename_i hdata
    cases h
    rw [hdata]
    simp only [Unchanged, and_self, true_iff]
    exact .inl rfl
  · cases h
  · rename_i packetType _ packetInside hdata
    rw [hdata] at hrejected ⊢
    simp only [Rejected, NothingNew, List.drop_succ_cons, List.drop_zero, List.head?_cons,
      Option.mem_some_iff, forall_eq'] at hrejected ⊢
    dsimp only at h
    split at h
    · rename_i hnil
      cases h
      simp [hnil, Unchanged]
    · rename_i hnil
      obtain ⟨hheart, hfails⟩ := hrejected.resolve_left hnil
      rw [if_neg fun heq => hheart (congrArg some heq)] at h
      cases h
      rw [parseElements_unchanged_iff hfails]
      simp [hnil]

/-- A CREATE_PLAYER packet whose second field is no number: its type and its first
field have been stored. -/
theorem rejected_leavesTrace :
    let data : Bytes := [24, 59] ++ str "7;x;0;0;0;1"
    Rejected data ∧ ∃ c', (received data).parseMessage 0 = .ok c' ∧
      ¬ Unchanged (received data) c' ∧ c'.packetData.action = 24 ∧ c'.packetData.serverId = 7 := by
  refine ⟨by decide +kernel, (received _).parseElements 24 _, rfl, ?_, rfl, rfl⟩
  intro h
  exact absurd (congrArg PacketData.action h.1) (by decide +kernel)

/-- The same packet again: its type and first field are in the mailbox already. -/
theorem rejected_unchanged_repeated :
    let data : Bytes := [24, 59] ++ str "7;x;0;0;0;1"
    let c := { received data with packetData.action := 24, packetData.serverId := 7 }
    ∃ c', c.parseMessage 0 = .ok c' ∧ (Unchanged c c' ↔ NothingNew c.packetData data) := by
  intro data c
  have hparsed : c.parseMessage 0 = .ok (c.parseElements 24 (deserialisePacket (data.drop 2))) := rfl
  have hrejected : Rejected data := by decide +kernel
  exact ⟨_, hparsed, rejected_unchanged_iff hrejected hparsed⟩

end Client

end BeeRType
