-- SUMMARY: The server-to-client codec: what the client reads back from a packet the server has created.
import BeeRType.Client.Client
import BeeRType.Server.Server

/-!
# Codec

`Server.createPacket` writes a type byte, a separator, the fields of the payload
and the packet's number. The client reads the first byte, drops two and splits
the rest. The two ends are written in different programs; here they meet.
-/

open Cpp

namespace BeeRType

/-- What the client makes of a datagram: the type byte and the elements. -/
def Client.decode (received : Bytes) : Option UInt8 × List Bytes :=
  (received.head?, deserialisePacket (received.drop 2))

/-- The fields that `createPacket` puts in place of empty data. -/
def Payload.minusOnes : Payload := ⟨str "-1", str "-1", str "-1", str "-1", str "-1"⟩

/-- No field of the payload contains the separator. -/
def Payload.NoDelim (p : Payload) : Prop := ∀ f ∈ p.fields, (59 : UInt8) ∉ f

/-- The payloads of the server's call sites: an id, and four fields each of which
is a printed `float` or one of the literals in the source. -/
structure Payload.CallSite (p : Payload) : Prop where
  id : ∃ id : Int32, p.f1 = toStringInt id.toInt
  rest : ∀ f ∈ [p.f2, p.f3, p.f4, p.f5],
    f ∈ [str "0", str "5", str "-1", str "-0.1"] ∨ ∃ q, |q| ≤ fltMax ∧ f = toStringFloat q

/-! ## The layout of a packet -/

@[simp] theorem str_semicolon : str ";" = [59] := rfl

theorem Server.createPacket_data {s : Server} {t : PacketType} {data : Bytes} (h : data ≠ []) :
    s.createPacket t data =
      (t.byte :: 59 :: (data ++ 59 :: toStringInt (s.sequenceNumber + 1).toInt),
        { s with sequenceNumber := s.sequenceNumber + 1 }) := by
  simp [createPacket, h]

theorem Server.createPacket_nil (s : Server) (t : PacketType) :
    s.createPacket t [] = s.createPacket t Payload.minusOnes.data := by
  rw [createPacket_data (Payload.data_ne_nil _)]
  rfl

theorem Payload.data_append (p : Payload) (number : Bytes) :
    p.data ++ 59 :: number = List.intercalate [59] (p.fields ++ [number]) := by
  simp [data, fields, List.intercalate]

/-! ## Splitting a packet -/

/-- The client reads back the type, the fields and the number. -/
theorem Client.decode_createPacket {s : Server} {t : PacketType} {p : Payload} (hp : p.NoDelim) :
    decode (s.createPacket t p.data).1 =
      (some t.byte, p.fields ++ [toStringInt (s.createPacket t p.data).2.sequenceNumber.toInt]) := by
  rw [Server.createPacket_data p.data_ne_nil]
  simp only [decode, List.head?_cons, List.drop_succ_cons, List.drop_zero, Prod.mk.injEq, true_and]
  rw [Payload.data_append, deserialisePacket,
    getlines_intercalate hp (not_mem_toStringInt _) toStringInt_ne_nil]
  rfl

/-- Two packets that decode alike carry the same type, fields and number. -/
theorem Client.decode_injective {s s' : Server} {t t' : PacketType} {p p' : Payload}
    (hp : p.NoDelim) (hp' : p'.NoDelim)
    (h : decode (s.createPacket t p.data).1 = decode (s'.createPacket t' p'.data).1) :
    t = t' ∧ p = p' ∧ (s.createPacket t p.data).2.sequenceNumber
      = (s'.createPacket t' p'.data).2.sequenceNumber := by
  rw [decode_createPacket hp, decode_createPacket hp'] at h
  obtain ⟨htype, helems⟩ := Prod.mk.inj h
  have hcode : t.code = t'.code := by
    rw [← t.toNat_byte, ← t'.toNat_byte, Option.some.inj htype]
  simp only [Payload.fields, List.cons_append, List.nil_append, List.cons.injEq, and_true] at helems
  obtain ⟨h1, h2, h3, h4, h5, hnumber⟩ := helems
  refine ⟨PacketType.code_injective hcode, ?_, Int32.toInt_inj.mp (toStringInt_injective hnumber)⟩
  cases p
  cases p'
  simp_all

/-! ## Parsing a packet -/

/-- The `try` block when every conversion succeeds. -/
theorem Client.parseElements_ok {c : Client} {b : UInt8} {e₀ e₁ e₂ e₃ e₄ e₅ : Bytes}
    {id number : Int32} {x y vx vy : FloatValue} (h₀ : stoi e₀ = .ok id) (h₁ : stof e₁ = .ok x)
    (h₂ : stof e₂ = .ok y) (h₃ : stof e₃ = .ok vx) (h₄ : stof e₄ = .ok vy)
    (h₅ : stoi e₅ = .ok number) :
    c.parseElements b [e₀, e₁, e₂, e₃, e₄, e₅] =
      { c with packetData := ⟨b.toNat, id, x, y, vx, vy⟩ }.checkPacketnb number := by
  simp [parseElements, tryAssign, h₀, h₁, h₂, h₃, h₄, h₅]

theorem Client.tryAssign_frame {α β : Type} {f : Client → β} {c : Client} {b : β}
    {value : Except StdException α} {rest : α → Client} (hc : f c = b)
    (hrest : ∀ a, f (rest a) = b) : f (c.tryAssign value rest) = b := by
  cases value with
  | error _ => exact hc
  | ok a => exact hrest a

/-- The `try` block writes the mailbox, the last number and the loss count only. -/
theorem Client.parseElements_frame {β : Type} {f : Client → β}
    (hf : ∀ (c : Client) packetData lastPacketnb packetsLost,
      f { c with packetData, lastPacketnb, lagMeter.packetsLost := packetsLost } = f c)
    (c : Client) (b : UInt8) (elements : List Bytes) :
    f (c.parseElements b elements) = f c := by
  have hstored (packetData : PacketData) : f { c with packetData } = f c :=
    hf c packetData c.lastPacketnb c.lagMeter.packetsLost
  refine tryAssign_frame (hstored _) fun serverId => ?_
  refine tryAssign_frame (hstored _) fun newX => ?_
  refine tryAssign_frame (hstored _) fun newY => ?_
  refine tryAssign_frame (hstored _) fun newVx => ?_
  refine tryAssign_frame (hstored _) fun newVy => ?_
  refine tryAssign_frame (hstored _) fun packetnb => ?_
  unfold checkPacketnb
  split
  · exact hf c _ packetnb _
  · exact hf c _ packetnb c.lagMeter.packetsLost

/-- `parseMessage` on a packet of the server. -/
theorem Client.parseMessage_createPacket {s : Server} {c : Client} {t : PacketType} {p : Payload}
    {now : ℚ} {id : Int32} {x y vx vy : FloatValue} (ht : t ≠ .heartbeat) (hp : p.NoDelim)
    (hrecv : c.receivedData = (s.createPacket t p.data).1)
    (h₁ : p.f1 = toStringInt id.toInt) (h₂ : stof p.f2 = .ok x) (h₃ : stof p.f3 = .ok y)
    (h₄ : stof p.f4 = .ok vx) (h₅ : stof p.f5 = .ok vy) :
    c.parseMessage now = .ok ({ c with packetData := ⟨t.code, id, x, y, vx, vy⟩ }.checkPacketnb
      (s.createPacket t p.data).2.sequenceNumber) := by
  have hdecode := decode_createPacket (s := s) (t := t) hp
  rw [Server.createPacket_data p.data_ne_nil] at hrecv hdecode ⊢
  simp only [decode, List.drop_succ_cons, List.drop_zero, Prod.mk.injEq] at hdecode
  simp only [parseMessage, hrecv, hdecode.2, PacketType.byte_ne_heartbeat ht, if_false,
    Payload.fields, List.cons_append, List.nil_append, reduceCtorEq]
  rw [parseElements_ok (h₁ ▸ stoi_toStringInt_self id) h₂ h₃ h₄ h₅ (stoi_toStringInt_self _),
    t.toNat_byte, hrecv]

/-- The client takes the mutex, stores the datagram and writes the packet to the
mailbox. -/
theorem Client.handleReceive_createPacket {s : Server} {t : PacketType} {p : Payload}
    {id : Int32} {x y vx vy : FloatValue} (ht : t ≠ .heartbeat) (hp : p.NoDelim)
    (hfit : (s.createPacket t p.data).1.length ≤ maxLength)
    (h₁ : p.f1 = toStringInt id.toInt) (h₂ : stof p.f2 = .ok x) (h₃ : stof p.f3 = .ok y)
    (h₄ : stof p.f4 = .ok vx) (h₅ : stof p.f5 = .ok vy)
    (c : Client) (source : Endpoint) (now : ℚ) :
    ∃ c', c.handleReceive now .success source (s.createPacket t p.data).1 = .ok c' ∧
      c'.packetData = ⟨t.code, id, x, y, vx, vy⟩ ∧
      c'.lastPacketnb = (s.createPacket t p.data).2.sequenceNumber := by
  simp only [handleReceive, List.take_of_length_le hfit]
  refine ⟨_, parseMessage_createPacket ht hp rfl h₁ h₂ h₃ h₄ h₅, ?_, ?_⟩
  · simp only [checkPacketnb]; split <;> rfl
  · simp only [checkPacketnb]

/-! ## The packets of the call sites -/

theorem length_toStringNat_le {n k : Nat} (hk : 0 < k) (hn : n < 10 ^ k) :
    (toStringNat n).length ≤ k := by
  unfold toStringNat
  split
  · exact hk
  · simpa using Nat.digits_length_le_iff (by decide) n |>.mpr hn

theorem length_toStringInt_le (n : Int32) : (toStringInt n.toInt).length ≤ 11 := by
  have hlow := n.le_toInt
  have hhigh := n.toInt_lt
  have hnat : (toStringNat n.toInt.natAbs).length ≤ 10 :=
    length_toStringNat_le (by decide) (by omega)
  unfold toStringInt
  split
  · rw [List.length_cons]; omega
  · omega

theorem length_toStringFloat_le {q : ℚ} (hq : |q| ≤ fltMax) : (toStringFloat q).length ≤ 47 := by
  have hint : millionths q / 1000000 < 10 ^ 39 := by
    have habs := abs_printedFloat q
    have hle := abs_printedFloat_le q
    have hmax : fltMax + 1 < 10 ^ 39 := by norm_num [fltMax]
    rw [habs] at hle
    have hlt : (millionths q : ℚ) < 10 ^ 39 * 1000000 := by
      rw [div_le_iff₀ (by norm_num)] at hle
      linarith
    have hcast : millionths q < 10 ^ 39 * 1000000 := by exact_mod_cast hlt
    omega
  have hnat := length_toStringNat_le (by decide) hint
  have hsign : (if q < 0 then str "-" else []).length ≤ 1 := by split <;> decide
  simp only [toStringFloat, List.length_append, List.length_cons, length_sixDigits]
  omega

/-- A field of a call site: it has no separator, `stof` reads it, and it is
short. -/
theorem callSite_field {f : Bytes}
    (h : f ∈ [str "0", str "5", str "-1", str "-0.1"] ∨ ∃ q, |q| ≤ fltMax ∧ f = toStringFloat q) :
    (59 : UInt8) ∉ f ∧ (∃ v, stof f = .ok v) ∧ f.length ≤ 47 := by
  rcases h with h | ⟨q, hq, rfl⟩
  · simp only [List.mem_cons, List.not_mem_nil, or_false] at h
    rcases h with rfl | rfl | rfl | rfl
    · exact ⟨by decide, ⟨.finite 0, by decide +kernel⟩, by decide⟩
    · exact ⟨by decide, ⟨.finite 5, by decide +kernel⟩, by decide⟩
    · exact ⟨by decide, ⟨.finite (-1), by decide +kernel⟩, by decide⟩
    · exact ⟨by decide, ⟨.finite (roundFloat (-1 / 10)), by decide +kernel⟩, by decide⟩
  · refine ⟨?_, ⟨_, stof_toStringFloat hq⟩, length_toStringFloat_le hq⟩
    intro hmem
    simp only [toStringFloat, List.mem_append, List.mem_cons] at hmem
    rcases hmem with hmem | hmem | hmem | hmem
    · split at hmem <;> revert hmem <;> decide
    · exact absurd (toStringNat_isDigit _ hmem) (by decide)
    · revert hmem; decide
    · exact absurd (sixDigits_isDigit _ hmem) (by decide)

theorem Payload.CallSite.noDelim {p : Payload} (hp : p.CallSite) : p.NoDelim := by
  obtain ⟨⟨id, hid⟩, hrest⟩ := hp
  intro f hf
  rcases List.mem_cons.mp hf with rfl | hf
  · rw [hid]; exact not_mem_toStringInt _
  · exact (callSite_field (hrest f hf)).1

/-- Every conversion of a call site's fields succeeds. -/
theorem Payload.CallSite.parses {p : Payload} (hp : p.CallSite) :
    ∃ (id : Int32) (x y vx vy : FloatValue), p.f1 = toStringInt id.toInt ∧ stof p.f2 = .ok x ∧
      stof p.f3 = .ok y ∧ stof p.f4 = .ok vx ∧ stof p.f5 = .ok vy := by
  have hfields : ∀ f ∈ [p.f2, p.f3, p.f4, p.f5], ∃ v, stof f = .ok v := fun f hf =>
    (callSite_field (hp.rest f hf)).2.1
  simp only [List.mem_cons, List.not_mem_nil, or_false, forall_eq_or_imp, forall_eq] at hfields
  obtain ⟨⟨x, hx⟩, ⟨y, hy⟩, ⟨vx, hvx⟩, ⟨vy, hvy⟩⟩ := hfields
  obtain ⟨id, hid⟩ := hp.id
  exact ⟨id, x, y, vx, vy, hid, hx, hy, hvx, hvy⟩

theorem Payload.CallSite.fits {p : Payload} (hp : p.CallSite) (s : Server) (t : PacketType) :
    (s.createPacket t p.data).1.length ≤ maxLength := by
  obtain ⟨⟨id, hid⟩, hrest⟩ := hp
  have hlen : ∀ f ∈ [p.f2, p.f3, p.f4, p.f5], f.length ≤ 47 := fun f hf =>
    (callSite_field (hrest f hf)).2.2
  simp only [List.mem_cons, List.not_mem_nil, or_false, forall_eq_or_imp, forall_eq] at hlen
  obtain ⟨h2, h3, h4, h5⟩ := hlen
  have hid' := length_toStringInt_le id
  have hnumber := length_toStringInt_le (s.sequenceNumber + 1)
  rw [Server.createPacket_data p.data_ne_nil]
  simp only [data, hid, str_semicolon, List.length_cons, List.length_append, List.length_nil,
    maxLength]
  omega

theorem Payload.minusOnes_callSite : minusOnes.CallSite where
  id := ⟨-1, by decide⟩
  rest := by
    intro f hf
    simp only [minusOnes, List.mem_cons, List.not_mem_nil, or_false, or_self] at hf
    exact .inl (by simp [hf])

/-- Whatever a call site sends, the client stores. -/
theorem Client.handleReceive_callSite {s : Server} {t : PacketType} {p : Payload}
    (ht : t ≠ .heartbeat) (hp : p.CallSite) (c : Client) (source : Endpoint) (now : ℚ) :
    ∃ c', c.handleReceive now .success source (s.createPacket t p.data).1 = .ok c' ∧
      c'.packetData.action = t.code ∧ p.f1 = toStringInt c'.packetData.serverId.toInt ∧
      c'.lastPacketnb = (s.createPacket t p.data).2.sequenceNumber := by
  obtain ⟨id, x, y, vx, vy, hid, hx, hy, hvx, hvy⟩ := hp.parses
  obtain ⟨c', hrecv, hdata, hnumber⟩ :=
    handleReceive_createPacket ht hp.noDelim (hp.fits s t) hid hx hy hvx hvy c source now
  exact ⟨c', hrecv, by rw [hdata], by rw [hdata]; exact hid, hnumber⟩

/-! ## Round trip -/

/-- The codec's round trip. A packet that fits the receive buffer is split into
its type, its five fields and its number; if the first field is a printed id and
the others parse as floats, the client stores them; packets that decode alike
are equal; empty data stands for five fields `-1`; and every packet that a call
site builds fits and is accepted. -/
theorem codec_roundTrip (s : Server) (t : PacketType) (p : Payload) (ht : t ≠ .heartbeat)
    (hp : p.NoDelim) (hfit : (s.createPacket t p.data).1.length ≤ maxLength) :
    let message := (s.createPacket t p.data).1
    let number := (s.createPacket t p.data).2.sequenceNumber
    Client.decode (message.take maxLength) = (some t.byte, p.fields ++ [toStringInt number.toInt]) ∧
    (∀ (c : Client) (source : Endpoint) (now : ℚ) (id : Int32) (x y vx vy : FloatValue),
      p.f1 = toStringInt id.toInt → stof p.f2 = .ok x → stof p.f3 = .ok y →
      stof p.f4 = .ok vx → stof p.f5 = .ok vy →
      ∃ c', c.handleReceive now .success source message = .ok c' ∧
        c'.packetData = ⟨t.code, id, x, y, vx, vy⟩ ∧ c'.lastPacketnb = number) ∧
    (∀ (s' : Server) (t' : PacketType) (p' : Payload), p'.NoDelim →
      Client.decode (s'.createPacket t' p'.data).1 = Client.decode message →
      t' = t ∧ p' = p ∧ (s'.createPacket t' p'.data).2.sequenceNumber = number) ∧
    s.createPacket t [] = s.createPacket t Payload.minusOnes.data ∧
    (∀ p' : Payload, p'.CallSite → ∀ (c : Client) (source : Endpoint) (now : ℚ),
      (s.createPacket t p'.data).1.length ≤ maxLength ∧
      ∃ c', c.handleReceive now .success source (s.createPacket t p'.data).1 = .ok c' ∧
        c'.packetData.action = t.code ∧ p'.f1 = toStringInt c'.packetData.serverId.toInt ∧
        c'.lastPacketnb = (s.createPacket t p'.data).2.sequenceNumber) := by
  intro message number
  refine ⟨?_, ?_, ?_, s.createPacket_nil t, ?_⟩
  · rw [List.take_of_length_le hfit]
    exact Client.decode_createPacket hp
  · intro c source now id x y vx vy h₁ h₂ h₃ h₄ h₅
    exact Client.handleReceive_createPacket ht hp hfit h₁ h₂ h₃ h₄ h₅ c source now
  · intro s' t' p' hp' h
    exact Client.decode_injective hp' hp h
  · intro p' hp' c source now
    exact ⟨hp'.fits s t, Client.handleReceive_callSite ht hp' c source now⟩

/-- A packet with an empty field and one that is no number. -/
theorem codec_roundTrip_text :
    Client.decode ((Server.new.createPacket .createEnemy
        (Payload.data ⟨str "7", str "", str "x y", str "-1", str "0"⟩)).1.take maxLength) =
      (some 22, [str "7", str "", str "x y", str "-1", str "0", str "1"]) :=
  (codec_roundTrip Server.new .createEnemy ⟨str "7", str "", str "x y", str "-1", str "0"⟩
    (by decide) (by unfold Payload.NoDelim; decide) (by decide)).1

end BeeRType
