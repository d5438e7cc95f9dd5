import Rs422Gateway.Gateway.Proofs.W5500Bus

/-!
# The configuration of the W5500

`g_w5500_net_readback_ok` and `g_w5500_udp_open_ok` are set when the chip has its addresses and
socket 1 its mode, ports and destination, and no transfer of EthernetTask changes them afterwards,
wherever it is cut.
-/

namespace Rs422Gateway

open Transition

/-- Registers hold their values. -/
def W5500.Holds (c : W5500) (block : UInt8) (registers : List (UInt16 × List UInt8)) : Prop :=
  ∀ r ∈ registers, c.cells block r.1 r.2.length = r.2

namespace W5500Bus

variable {s s' : W5500Bus} {n : W5500Socket} {c c' : W5500}

/-- What has been configured is as it was. -/
structure Kept (c c' : W5500) : Prop where
  network : ∀ a ∈ w5500NetworkAddresses, c'.memory 0 a = c.memory 0 a
  udp : ∀ a ∈ w5500UdpAddresses,
    c'.memory (W5500Socket.block .one) a = c.memory (W5500Socket.block .one) a

theorem mem_registerAddresses {registers : List (UInt16 × List UInt8)} {r : UInt16 × List UInt8}
    (hr : r ∈ registers) {i : Nat} (hi : i < r.2.length) :
    r.1 + UInt16.ofNat i ∈ registerAddresses registers :=
  List.mem_flatMap.mpr ⟨r, hr, List.mem_map.mpr ⟨i, List.mem_range.mpr hi, rfl⟩⟩

theorem Kept.network_cells (h : Kept c c') {r : UInt16 × List UInt8}
    (hr : r ∈ w5500NetworkConfig) :
    c'.cells 0 r.1 r.2.length = c.cells 0 r.1 r.2.length :=
  W5500.cells_congr (by decide) fun _ hi => h.network _ (mem_registerAddresses hr hi)

theorem Kept.udp_cells (h : Kept c c') {r : UInt16 × List UInt8} (hr : r ∈ w5500UdpConfig) :
    c'.cells (W5500Socket.block .one) r.1 r.2.length =
      c.cells (W5500Socket.block .one) r.1 r.2.length :=
  W5500.cells_congr (by decide) fun _ hi => h.udp _ (mem_registerAddresses hr hi)

/-- What holds while EthernetTask comes up. -/
def BootInv (s : W5500Bus) : Prop :=
  match s.pc with
  | .version | .writeConfig _ => s.netReadbackOk = false ∧ s.udpOpenOk = false ∧ s.readback = []
  | .readConfig left =>
      s.netReadbackOk = false ∧ s.udpOpenOk = false ∧ left <:+ w5500ReadNetworkConfig ∧
        ∀ e ∈ s.readback, ∃ r ∈ w5500NetworkConfig,
          e = (r.1, s.chip.cells 0 r.1 r.2.length)
  | .startTcp => s.udpOpenOk = false
  | .startUdp left =>
      s.udpOpenOk = false ∧ left <:+ w5500StartUdpSocket ∧
        ∀ r ∈ w5500UdpConfig, .write r.1 r.2 ∉ left →
          s.chip.cells (W5500Socket.block .one) r.1 r.2.length = r.2
  | .loop => True

/-- The invariant. -/
structure ConfigInv (s : W5500Bus) : Prop where
  framed : s.Framed
  boot : s.BootInv
  network : s.netReadbackOk = true → s.chip.Holds 0 w5500NetworkConfig
  udp : s.udpOpenOk = true → s.chip.Holds (W5500Socket.block .one) w5500UdpConfig

/-- The bus steps, and what has been configured is kept. -/
theorem ConfigInv.kept (h : s.ConfigInv) {chip : W5500} {control : W5500Socket → SendControl}
    (hkept : Kept s.chip chip)
    (hframed : Framed { s with chip := chip, control := control }) :
    ConfigInv { s with chip := chip, control := control } where
  framed := hframed
  boot := by
    have hboot := h.boot
    unfold BootInv at hboot ⊢
    dsimp only
    split at hboot
    · exact hboot
    · exact hboot
    · obtain ⟨hnetwork, hudp, hleft, hreadback⟩ := hboot
      refine ⟨hnetwork, hudp, hleft, ?_⟩
      intro e he
      obtain ⟨r, hr, heq⟩ := hreadback e he
      exact ⟨r, hr, by rw [heq, hkept.network_cells hr]⟩
    · exact hboot
    · obtain ⟨hudp, hleft, hwritten⟩ := hboot
      refine ⟨hudp, hleft, ?_⟩
      intro r hr hnot
      rw [hkept.udp_cells hr]
      exact hwritten r hr hnot
    · trivial
  network hok r hr := (hkept.network_cells hr).trans (h.network hok r hr)
  udp hok r hr := (hkept.udp_cells hr).trans (h.udp hok r hr)

/-! ## Transfers that keep the configuration -/

theorem Kept.of_memory (h : c'.memory = c.memory) : Kept c c' :=
  ⟨fun _ _ => by rw [h], fun _ _ => by rw [h]⟩

/-- A write to another block. -/
theorem kept_writeAll (c : W5500) {block : UInt8} (h : 0 ≠ block)
    (h' : W5500Socket.block .one ≠ block) (address : UInt16) (data : List UInt8) :
    Kept c (c.writeAll block address data) :=
  ⟨fun _ _ => congrFun (W5500.writeAll_other c h address data).1 _,
    fun _ _ => congrFun (W5500.writeAll_other c h' address data).1 _⟩

/-- What is written while a datagram is sent lies apart from the configuration. -/
theorem udpAddresses_apart {a : UInt16} (ha : a ∈ w5500UdpAddresses) :
    (a ≠ SocketRegister.txRd ∧ a ≠ SocketRegister.txRd + 1) ∧
      (a ≠ SocketRegister.txWr ∧ a ≠ SocketRegister.txWr + 1) ∧
      (a ≠ SocketRegister.ir ∧ a ≠ SocketRegister.ir + 1) ∧
      (a ≠ SocketRegister.cr ∧ a ≠ SocketRegister.cr + 1) := by
  have haddresses : w5500UdpAddresses =
      [0x00, 0x04, 0x05, 0x0C, 0x0D, 0x0E, 0x0F, 0x10, 0x11] := rfl
  rw [haddresses] at ha
  fin_cases ha <;> decide

/-- A write of at most two registers of socket 1 that are not configured. -/
theorem kept_socket1 (c : W5500) {address : UInt16} {data : List UInt8} (hlength : data.length ≤ 2)
    (h : ∀ a ∈ w5500UdpAddresses, a ≠ address ∧ a ≠ address + 1) :
    Kept c (c.writeAll (W5500Socket.block .one) address data) where
  network _ _ := congrFun (W5500.writeAll_other c (by decide) address data).1 _
  udp a ha := by
    obtain ⟨⟨hrd, hrd'⟩, _⟩ := udpAddresses_apart ha
    refine W5500.writeAll_register c (by decide) hrd hrd' ?_
    intro i hi
    obtain rfl | rfl : i = 0 ∨ i = 1 := by omega
    · show a ≠ address + 0
      rw [UInt16.add_zero]
      exact (h a ha).1
    · exact (h a ha).2

theorem arrived_length (call : HalCall) (data : List UInt8) :
    (call.arrived data).length ≤ data.length := by
  unfold HalCall.arrived
  split
  · exact Nat.le_refl _
  · exact List.length_take_le' _ _

/-- A transaction of a sender. -/
theorem kept_written (call : HalCall) : Kept s.chip (s.written n call) := by
  cases n with
  | zero =>
    exact ⟨fun _ _ => congrFun (written_other call (by decide) (by decide)).1 _,
      fun _ _ => congrFun (written_other call (by decide) (by decide)).1 _⟩
  | one =>
    have hone {data : List UInt8} (h : data.length = 1) : (call.arrived data).length ≤ 2 :=
      Nat.le_succ_of_le (h ▸ arrived_length call data)
    unfold written
    split
    · exact kept_writeAll _ (by decide) (by decide) _ _
    · exact kept_socket1 _ (arrived_length call _) fun _ ha => (udpAddresses_apart ha).2.1
    · exact kept_socket1 _ (hone rfl) fun _ ha => (udpAddresses_apart ha).2.2.1
    · exact kept_socket1 _ (hone rfl) fun _ ha => (udpAddresses_apart ha).2.2.2
    · exact kept_socket1 _ (hone rfl) fun _ ha => (udpAddresses_apart ha).2.2.1
    · exact .of_memory rfl

/-! ## Coming up -/

theorem deselect_memory (h : c.deselect = c'.deselect) : c.memory = c'.memory := by
  show c.deselect.memory = c'.deselect.memory
  rw [h]

section Run

variable {write : W5500 → UInt16 → List UInt8 → HalCall → W5500 × HalStatus}
  {read : W5500 → UInt16 → Nat → HalCall → W5500 × HalStatus × List UInt8} {c : W5500}
  {call : HalCall} {late : Bool} {step : RegisterStep}

/-- A step that writes nothing. -/
theorem run_memory
    (hread : ∀ address length, (read c address length call).1.memory = c.memory)
    (h : ∀ address data, step ≠ .write address data) :
    (step.run write read c call late).1.memory = c.memory := by
  cases step with
  | write address data => exact absurd rfl (h address data)
  | read address length => exact hread address length
  | await address expected => exact hread address 1

/-- Only a wait is repeated. -/
theorem run_again (h : (step.run write read c call late).2 = .again) :
    ∀ address data, step ≠ .write address data := by
  rintro address data rfl
  dsimp only [RegisterStep.run] at h
  split at h <;> cases h

end Run

theorem runCommon_memory {c : W5500} (hhigh : c.phase = .high) (call : HalCall) (late : Bool)
    {step : RegisterStep} (h : ∀ address data, step ≠ .write address data) :
    (step.runCommon c call late).1.memory = c.memory :=
  run_memory (fun address length =>
    deselect_memory (readRegisters_chip hhigh rfl 6 address length call)) h

theorem runSocket1_memory {c : W5500} (hhigh : c.phase = .high) (call : HalCall) (late : Bool)
    {step : RegisterStep} (h : ∀ address data, step ≠ .write address data) :
    (step.runSocket1 c call late).1.memory = c.memory :=
  run_memory (fun address length =>
    deselect_memory (readRegisters_chip hhigh (readVdm_read .one) 4 address length call)) h

/-- What a step of `w5500_read_network_config` saves. -/
theorem run_read {c : W5500} (hhigh : c.phase = .high) {r : UInt16 × List UInt8}
    (hr : r ∈ w5500NetworkConfig) {call : HalCall} {late : Bool} {rx : List UInt8}
    (h : (RegisterStep.runCommon c call late (.read r.1 r.2.length)).2 = .next rx) :
    rx = c.cells 0 r.1 r.2.length := by
  have hlength : ¬ (r.2.length = 0 ∨ 6 < r.2.length) := by
    fin_cases hr <;> decide
  have hread : W5500.isWrite 0x00 = false := rfl
  dsimp only [RegisterStep.runCommon, RegisterStep.run] at h
  rw [w5500ReadCommonRegisters, w5500ReadRegisters, if_neg hlength] at h
  dsimp only at h
  split at h
  case isTrue hok =>
    cases h
    have hdata := W5500.read_transfer_data hhigh hread r.1 (List.replicate r.2.length 0) hok
    rw [List.length_replicate] at hdata
    exact hdata
  case isFalse => cases h

/-- A write step of `w5500_start_udp_socket`. -/
theorem run_write {c : W5500} (hhigh : c.phase = .high) {address : UInt16} {data : List UInt8}
    (hstep : .write address data ∈ w5500StartUdpSocket) (call : HalCall) (late : Bool) :
    (RegisterStep.runSocket1 c call late (.write address data)).1.deselect =
        (c.writeAll (W5500Socket.block .one) address (call.arrived data)).deselect ∧
      ∀ rx, (RegisterStep.runSocket1 c call late (.write address data)).2 = .next rx →
        call.arrived data = data := by
  have hlength : ¬ (data.length = 0 ∨ 4 < data.length) := by
    simp only [w5500StartUdpSocket, List.mem_cons, RegisterStep.write.injEq, reduceCtorEq,
      false_or, List.not_mem_nil, or_false] at hstep
    rcases hstep with ⟨_, rfl⟩ | ⟨_, rfl⟩ | ⟨_, rfl⟩ | ⟨_, rfl⟩ | ⟨_, rfl⟩ <;> decide
  have htransfer := W5500.write_transfer hhigh (writeVdm_write .one) address data call
  dsimp only [RegisterStep.runSocket1, RegisterStep.run]
  rw [w5500SocketWriteRegisters, w5500WriteRegisters,
    if_neg (show ¬ (data.length = 0 ∨ W5500Socket.one.maxDataLength < data.length) from hlength)]
  refine ⟨htransfer, ?_⟩
  intro rx hnext
  dsimp only at hnext
  split at hnext
  case isTrue hok => exact if_pos hok
  case isFalse => cases hnext

/-- Each register of the configuration of socket 1 is written in one step. -/
theorem udp_apart {address : UInt16} {data : List UInt8}
    (hstep : .write address data ∈ w5500StartUdpSocket) {r : UInt16 × List UInt8}
    (hr : r ∈ w5500UdpConfig) (hne : r ≠ (address, data)) :
    ∀ i < r.2.length, ∀ j < data.length,
      r.1 + UInt16.ofNat i ≠ address + UInt16.ofNat j := by
  simp only [w5500StartUdpSocket, List.mem_cons, RegisterStep.write.injEq, reduceCtorEq,
    false_or, List.not_mem_nil, or_false] at hstep
  rcases hstep with ⟨rfl, rfl⟩ | ⟨rfl, rfl⟩ | ⟨rfl, rfl⟩ | ⟨rfl, rfl⟩ | ⟨rfl, rfl⟩ <;>
    fin_cases hr <;> first | exact absurd rfl hne | decide

/-- A step of `w5500_start_udp_socket` keeps what the others have written. -/
theorem run_udp {c : W5500} (hhigh : c.phase = .high) {step : RegisterStep}
    {left : List RegisterStep} (hleft : step :: left <:+ w5500StartUdpSocket)
    (hwritten : ∀ r ∈ w5500UdpConfig, .write r.1 r.2 ∉ step :: left →
      c.cells (W5500Socket.block .one) r.1 r.2.length = r.2)
    {call : HalCall} {late : Bool} {rx : List UInt8}
    (hnext : (step.runSocket1 c call late).2 = .next rx) :
    ∀ r ∈ w5500UdpConfig, .write r.1 r.2 ∉ left →
      (step.runSocket1 c call late).1.cells (W5500Socket.block .one) r.1 r.2.length =
        r.2 := by
  have hstep : step ∈ w5500StartUdpSocket := hleft.subset List.mem_cons_self
  intro r hr hnot
  by_cases hwrites : ∃ address data, step = .write address data
  case neg =>
    have hmemory := runSocket1_memory hhigh call late
      fun address data heq => hwrites ⟨address, data, heq⟩
    have hnot' : .write r.1 r.2 ∉ step :: left := by
      rintro (_ | ⟨_, hmem⟩)
      · exact hwrites ⟨_, _, rfl⟩
      · exact hnot hmem
    rw [W5500.cells_memory hmemory]
    exact hwritten r hr hnot'
  obtain ⟨address, data, rfl⟩ := hwrites
  obtain ⟨hchip, harrived⟩ := run_write hhigh hstep call late
  rw [harrived rx hnext] at hchip
  have hmemory := deselect_memory hchip
  rw [W5500.cells_memory hmemory]
  by_cases hr' : r = (address, data)
  · subst hr'
    have hplain : W5500.Plain address data.length ∧ data.length ≤ 65536 := by
      simp only [w5500UdpConfig, List.mem_cons, Prod.mk.injEq, List.not_mem_nil, or_false] at hr
      rcases hr with ⟨rfl, rfl⟩ | ⟨rfl, rfl⟩ | ⟨rfl, rfl⟩ | ⟨rfl, rfl⟩ <;> decide
    exact W5500.cells_writeAll c (by decide) hplain.2 hplain.1
  · have hkept : (c.writeAll (W5500Socket.block .one) address data).cells
        (W5500Socket.block .one) r.1 r.2.length =
        c.cells (W5500Socket.block .one) r.1 r.2.length := by
      refine W5500.cells_congr (by decide) fun i hi => ?_
      obtain ⟨⟨hrd, hrd'⟩, _⟩ := udpAddresses_apart (mem_registerAddresses hr hi)
      exact W5500.writeAll_register c (by decide) hrd hrd' (udp_apart hstep hr hr' i hi)
    have hnot' : .write r.1 r.2 ∉ RegisterStep.write address data :: left := by
      rintro (_ | ⟨_, hmem⟩)
      · exact hr' rfl
      · exact hnot hmem
    rw [hkept]
    exact hwritten r hr hnot'

/-- The common registers are another block. -/
theorem run_network {c : W5500} (hhigh : c.phase = .high) {step : RegisterStep}
    (hstep : step ∈ w5500StartUdpSocket) (call : HalCall) (late : Bool) :
    (step.runSocket1 c call late).1.memory 0 = c.memory 0 := by
  cases step with
  | write address data =>
    rw [deselect_memory (run_write hhigh hstep call late).1]
    exact (W5500.writeAll_other c (by decide) address _).1
  | read address length =>
    rw [runSocket1_memory hhigh call late (by nofun)]
  | await address expected =>
    rw [runSocket1_memory hhigh call late (by nofun)]

/-- What has been read is what has been written. -/
theorem holds_of_readback {c : W5500} {readback : List (UInt16 × List UInt8)}
    (h : ∀ e ∈ readback, ∃ r ∈ w5500NetworkConfig, e = (r.1, c.cells 0 r.1 r.2.length))
    (hmatches : readback = w5500NetworkConfig) : c.Holds 0 w5500NetworkConfig := by
  have hdistinct : ∀ r ∈ w5500NetworkConfig, ∀ r' ∈ w5500NetworkConfig, r.1 = r'.1 → r = r' := by
    decide
  intro r hr
  obtain ⟨r', hr', heq⟩ := h r (hmatches ▸ hr)
  obtain rfl : r = r' := hdistinct r hr r' hr' (by rw [heq])
  exact (congrArg Prod.snd heq).symm

/-! ## Steps -/

theorem config_initial (memory : UInt8 → UInt16 → UInt8) : (initial memory).ConfigInv where
  framed := framed_initial memory
  boot := ⟨rfl, rfl, rfl⟩
  network hok := by cases hok
  udp hok := by cases hok

theorem suffix_tail {step : RegisterStep} {left program : List RegisterStep}
    (h : step :: left <:+ program) : left <:+ program :=
  (List.suffix_cons step left).trans h

/-- As long as no flag is set. -/
theorem config_unset (framed : s.Framed) (boot : s.BootInv) (hnetwork : s.netReadbackOk = false)
    (hudp : s.udpOpenOk = false) : s.ConfigInv where
  framed := framed
  boot := boot
  network hok := by
    rw [hnetwork] at hok
    cases hok
  udp hok := by
    rw [hudp] at hok
    cases hok

/-- The invariant says nothing about coming up any more. -/
theorem bootInv_loop (h : s.pc = .loop) : s.BootInv := by
  unfold BootInv
  rw [h]
  trivial

theorem config_version (h : s.ConfigInv) (hpc : s.pc = .version) {call : HalCall} {late : Bool}
    (framed : (s.boot call late).Framed) : (s.boot call late).ConfigInv := by
  have hboot := h.boot
  unfold BootInv at hboot
  rw [hpc] at hboot
  unfold boot at framed ⊢
  rw [hpc] at framed ⊢
  refine config_unset framed ?_ hboot.1 hboot.2.1
  dsimp only
  split
  · exact hboot
  · exact bootInv_loop rfl

theorem config_writeConfig (h : s.ConfigInv) {left : List RegisterStep}
    (hpc : s.pc = .writeConfig left) {call : HalCall} {late : Bool}
    (framed : (s.boot call late).Framed) : (s.boot call late).ConfigInv := by
  have hboot := h.boot
  unfold BootInv at hboot
  rw [hpc] at hboot
  unfold boot at framed ⊢
  rw [hpc] at framed ⊢
  cases left with
  | nil =>
    refine config_unset framed ⟨hboot.1, hboot.2.1, List.suffix_rfl, ?_⟩ hboot.1 hboot.2.1
    intro e he
    dsimp only at he
    rw [hboot.2.2] at he
    cases he
  | cons step left =>
    refine config_unset framed ?_ hboot.1 hboot.2.1
    dsimp only
    split
    · exact hboot
    · exact hboot
    · exact bootInv_loop rfl

theorem config_readConfig (h : s.ConfigInv) {left : List RegisterStep}
    (hpc : s.pc = .readConfig left) {call : HalCall} {late : Bool}
    (framed : (s.boot call late).Framed) : (s.boot call late).ConfigInv := by
  have hhigh := h.framed.idle_high (h.framed.boot (by rw [hpc]; nofun))
  have hboot := h.boot
  unfold BootInv at hboot
  rw [hpc] at hboot
  obtain ⟨hnetwork, hudp, hleft, hreadback⟩ := hboot
  unfold boot at framed ⊢
  rw [hpc] at framed ⊢
  cases left with
  | nil =>
    dsimp only at framed ⊢
    by_cases hmatches : s.readback = w5500NetworkConfig
    · rw [if_pos hmatches] at framed ⊢
      refine ⟨framed, hudp, fun _ => holds_of_readback hreadback hmatches, fun hok => ?_⟩
      rw [show _ = false from hudp] at hok
      cases hok
    · rw [if_neg hmatches] at framed ⊢
      exact config_unset framed (bootInv_loop rfl) hnetwork hudp
  | cons step left =>
    have hmem : step ∈ w5500ReadNetworkConfig := hleft.subset List.mem_cons_self
    obtain ⟨r, hr, rfl⟩ := List.mem_map.mp hmem
    have hmemory := runCommon_memory hhigh call late
      (show ∀ address data, RegisterStep.read r.1 r.2.length ≠ .write address data by nofun)
    have hcells (r' : UInt16 × List UInt8) := W5500.cells_memory hmemory 0 r'.1 r'.2.length
    have hkept : ∀ e ∈ s.readback, ∃ r' ∈ w5500NetworkConfig, e = (r'.1,
        (RegisterStep.runCommon s.chip call late (.read r.1 r.2.length)).1.cells 0 r'.1
          r'.2.length) := by
      intro e he
      obtain ⟨r', hr', heq⟩ := hreadback e he
      exact ⟨r', hr', by rw [hcells, heq]⟩
    dsimp only at framed ⊢
    cases hend : (RegisterStep.runCommon s.chip call late (.read r.1 r.2.length)).2 with
    | next rx =>
      rw [hend] at framed
      refine config_unset framed ⟨hnetwork, hudp, suffix_tail hleft, ?_⟩ hnetwork hudp
      intro e he
      rcases List.mem_append.mp he with he | he
      · exact hkept e he
      · refine ⟨r, hr, ?_⟩
        rw [hcells, ← run_read hhigh hr hend]
        exact List.mem_singleton.mp he
    | again =>
      rw [hend] at framed
      exact config_unset framed ⟨hnetwork, hudp, hleft, hkept⟩ hnetwork hudp
    | failed =>
      rw [hend] at framed
      exact config_unset framed (bootInv_loop rfl) hnetwork hudp

theorem config_startUdp (h : s.ConfigInv) {left : List RegisterStep}
    (hpc : s.pc = .startUdp left) {call : HalCall} {late : Bool}
    (framed : (s.boot call late).Framed) : (s.boot call late).ConfigInv := by
  have hhigh := h.framed.idle_high (h.framed.boot (by rw [hpc]; nofun))
  have hboot := h.boot
  unfold BootInv at hboot
  rw [hpc] at hboot
  obtain ⟨hudp, hleft, hwritten⟩ := hboot
  unfold boot at framed ⊢
  rw [hpc] at framed ⊢
  cases left with
  | nil =>
    exact ⟨framed, bootInv_loop rfl, h.network, fun _ r hr => hwritten r hr List.not_mem_nil⟩
  | cons step left =>
    have hstep : step ∈ w5500StartUdpSocket := hleft.subset List.mem_cons_self
    have hcommon := run_network hhigh hstep call late
    have hnetwork (hok : s.netReadbackOk = true) :
        (step.runSocket1 s.chip call late).1.Holds 0 w5500NetworkConfig := by
      intro r hr
      rw [W5500.cells_congr (by decide) fun i _ => congrFun hcommon _]
      exact h.network hok r hr
    have hunset (hok : s.udpOpenOk = true) :
        (step.runSocket1 s.chip call late).1.Holds (W5500Socket.block .one)
          w5500UdpConfig := by
      rw [show _ = false from hudp] at hok
      cases hok
    refine ⟨framed, ?_, hnetwork, hunset⟩
    dsimp only
    cases hend : (step.runSocket1 s.chip call late).2 with
    | next rx => exact ⟨hudp, suffix_tail hleft, run_udp hhigh hleft hwritten hend⟩
    | again =>
      refine ⟨hudp, hleft, ?_⟩
      intro r hr hnot
      rw [W5500.cells_memory (runSocket1_memory hhigh call late (run_again hend))]
      exact hwritten r hr hnot
    | failed => exact bootInv_loop rfl

/-- A transaction up to the loop. -/
theorem config_boot (h : s.ConfigInv) (hpc : s.pc ≠ .loop) (call : HalCall) (late : Bool) :
    (s.boot call late).ConfigInv := by
  have framed : (s.boot call late).Framed :=
    framed_step (a := .boot call late) h.framed (if_pos hpc)
  cases hat : s.pc with
  | loop => exact absurd hat hpc
  | version => exact config_version h hat framed
  | writeConfig left => exact config_writeConfig h hat framed
  | readConfig left => exact config_readConfig h hat framed
  | startTcp =>
    have hboot := h.boot
    unfold BootInv at hboot
    rw [hat] at hboot
    unfold boot at framed ⊢
    rw [hat] at framed ⊢
    refine ⟨framed, ⟨hboot, List.suffix_rfl, ?_⟩, h.network, h.udp⟩
    have hall : ∀ r ∈ w5500UdpConfig, RegisterStep.write r.1 r.2 ∈ w5500StartUdpSocket := by decide
    exact fun r hr hnot => absurd (hall r hr) hnot
  | startUdp left => exact config_startUdp h hat framed

/-- Any step. -/
theorem config_step (h : s.ConfigInv) {a : BusAction} (keeps : s.KeepsConfig a)
    (taken : s.step a = some s') : s'.ConfigInv := by
  have framed := framed_step h.framed taken
  cases a with
  | own block address value =>
    cases taken
    refine h.kept ⟨?_, ?_⟩ framed
    · intro a ha
      by_cases hblock : block = 0
      · have hne : a ≠ address := by
          rintro rfl
          exact keeps.1 hblock ha
        rw [hblock]
        exact W5500.set_memory_ne _ _ hne value
      · exact congrFun (Function.update_of_ne (Ne.symm hblock) _ _) a
    · intro a ha
      by_cases hblock : block = W5500Socket.block .one
      · have hne : a ≠ address := by
          rintro rfl
          exact keeps.2 hblock ha
        rw [hblock]
        exact W5500.set_memory_ne _ _ hne value
      · exact congrFun (Function.update_of_ne (Ne.symm hblock) _ _) a
  | boot call late =>
    simp only [step, Option.ite_none_right_eq_some, Option.some.injEq] at taken
    rw [← taken.2]
    exact config_boot h taken.1 call late
  | readCommon address length call =>
    simp only [step, Option.ite_none_right_eq_some, Option.some.injEq] at taken
    obtain ⟨⟨hidle, _⟩, rfl⟩ := taken
    have hread : W5500.isWrite 0x00 = false := rfl
    have hchip := readRegisters_chip (h.framed.idle_high hidle) hread 6 address length call
    exact h.kept (.of_memory (deselect_memory hchip)) framed
  | readSocket m address length call =>
    simp only [step, Option.ite_none_right_eq_some, Option.some.injEq] at taken
    obtain ⟨⟨hidle, _⟩, rfl⟩ := taken
    have hchip := readRegisters_chip (h.framed.idle_high hidle) (readVdm_read m) m.maxDataLength
      address length call
    exact h.kept (.of_memory (deselect_memory hchip)) framed
  | readRxBuffer address dummy header data =>
    simp only [step, Option.ite_none_right_eq_some, Option.some.injEq] at taken
    obtain ⟨⟨hidle, _⟩, rfl⟩ := taken
    have hchip := readRxBuffer_chip (h.framed.idle_high hidle) address dummy header data
    exact h.kept (.of_memory (deselect_memory hchip)) framed
  | writeSocket0 address bytes call =>
    simp only [step, Option.ite_none_right_eq_some, Option.some.injEq] at taken
    obtain ⟨⟨hidle, _⟩, rfl⟩ := taken
    obtain ⟨data, _, hchip⟩ := writeSocket0_chip (h.framed.idle_high hidle) address bytes call
    have hkept := kept_writeAll s.chip (show (0 : UInt8) ≠ 1 by decide) (by decide) address data
    refine h.kept ⟨fun a ha => ?_, fun a ha => ?_⟩ framed
    · rw [deselect_memory hchip]
      exact hkept.network a ha
    · rw [deselect_memory hchip]
      exact hkept.udp a ha
  | call m frame =>
    simp only [step, Option.ite_none_right_eq_some, Option.some.injEq] at taken
    obtain ⟨_, rfl⟩ := taken
    exact h.kept (.of_memory rfl) framed
  | spi m call late =>
    simp only [step, Option.ite_none_left_eq_some, Option.some.injEq] at taken
    obtain ⟨hpc, rfl⟩ := taken
    have hchip := deselect_memory (spi_chip h.framed hpc call late)
    have hkept := kept_written (s := s) (n := m) call
    refine h.kept ⟨fun a ha => ?_, fun a ha => ?_⟩ framed
    · exact (congrFun (congrFun hchip 0) a).trans (hkept.network a ha)
    · exact (congrFun (congrFun hchip _) a).trans (hkept.udp a ha)

end W5500Bus

/-- Whatever transfers fail, and wherever they are cut: once `g_w5500_net_readback_ok` is set, the
    chip has its addresses, and once `g_w5500_udp_open_ok` is set, socket 1 sends from its port to
    the port of the PC. -/
theorem w5500Config_holds {memory : UInt8 → UInt16 → UInt8} {s : W5500Bus}
    (run : Reachable W5500Bus.step W5500Bus.KeepsConfig (.initial memory) s) :
    (s.netReadbackOk = true → s.chip.Holds 0 w5500NetworkConfig) ∧
      (s.udpOpenOk = true → s.chip.Holds (W5500Socket.block .one) w5500UdpConfig) := by
  have h : s.ConfigInv := run.invariant (W5500Bus.config_initial memory)
    fun _ _ _ h keeps taken => W5500Bus.config_step h keeps taken
  exact ⟨h.network, h.udp⟩

/-- EthernetTask comes up, with a chip that answers, and a datagram fails in the middle of
    Sn_TX_WR. -/
theorem w5500Config_holds_failed :
    ∃ s, Reachable W5500Bus.step W5500Bus.KeepsConfig (.initial fun _ _ => 0) s ∧
      (s.send .one).status = .timeout ∧ s.chip.cells 0 0x000F 4 = [192, 168, 77, 2] ∧
      s.chip.cells 5 SocketRegister.dport 2 = writeU16Be 5002 := by
  obtain ⟨s, run, htest⟩ := exists_reachable W5500Bus.step W5500Bus.KeepsConfig
    (.initial fun _ _ => 0)
    (List.flatten [[.own 0 0x0039 0x04], List.replicate 15 (.boot ⟨.ok, 0⟩ false),
      [.own 5 SocketRegister.cr 0, .own 5 SocketRegister.sr 0x22],
      List.replicate 5 (.boot ⟨.ok, 0⟩ false), [.own 5 SocketRegister.txFsr 0x08],
      [.call .one [0x11]], spiRun .one (List.replicate 5 ⟨.ok, 0⟩ ++ [⟨.timeout, 4⟩])])
    (fun s => decide (s.netReadbackOk = true ∧ s.udpOpenOk = true ∧
      (s.send .one).status = .timeout)) (by decide +kernel)
  obtain ⟨hnetwork, hudp, hstatus⟩ := of_decide_eq_true htest
  obtain ⟨hcommon, hsocket⟩ := w5500Config_holds run
  exact ⟨s, run, hstatus, hcommon hnetwork (0x000F, [192, 168, 77, 2]) (by decide),
    hsocket hudp (SocketRegister.dport, writeU16Be 5002) (by decide)⟩

end Rs422Gateway
