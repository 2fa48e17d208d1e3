import GoldenGate.Nip.Stack
import GoldenGate.Lib.Runs

/-! # Local ports

The local ports of the endpoints of a stack, over any run: they stay distinct, and which ports
the search for a dynamic port finds.
-/

namespace GoldenGate.Nip

open Memory

/-- A port of the dynamic range. -/
def IsDynamic (port : UInt16) : Prop :=
  udpDynamicPortRangeStart ≤ port.toNat ∧ port.toNat ≤ udpDynamicPortRangeEnd

namespace NipStack

/-- The local ports of the endpoints. -/
def ports (self : NipStack) : List UInt16 := self.udpEndpoints.map (·.localAddress.port)

theorem udpSrcPortInUse_iff {self : NipStack} {port : UInt16} :
    self.udpSrcPortInUse port = true ↔ port ∈ self.ports := by
  simp [udpSrcPortInUse, ports]

theorem not_mem_ports {self : NipStack} {port : UInt16} : self.udpSrcPortInUse port = false ↔ port ∉ self.ports := by
  rw [← udpSrcPortInUse_iff, Bool.not_eq_true]

/-! ## The search -/

/-- The port that the search looks at after `i` others. -/
def scanned (self : NipStack) (i : Nat) : UInt16 :=
  UInt16.ofNat (udpDynamicPortRangeStart + (self.dynamicPortScanStart.toNat + i) % udpDynamicPortRangeSpan)

theorem scanned_toNat (self : NipStack) (i : Nat) :
    (self.scanned i).toNat =
      udpDynamicPortRangeStart + (self.dynamicPortScanStart.toNat + i) % udpDynamicPortRangeSpan := by
  have small : (self.dynamicPortScanStart.toNat + i) % udpDynamicPortRangeSpan < udpDynamicPortRangeSpan :=
    Nat.mod_lt _ (by decide)
  rw [scanned, UInt16.toNat_ofNat']
  exact Nat.mod_eq_of_lt (Nat.lt_trans (Nat.add_lt_add_left small _) (by decide))

/-- The search looks at every port of the range but the last one. -/
theorem scanned_of_dynamic (self : NipStack) {port : UInt16} (dynamic : IsDynamic port)
    (notLast : port.toNat ≠ udpDynamicPortRangeEnd) : ∃ i < udpDynamicPortRangeSpan, self.scanned i = port := by
  have low := dynamic.1
  have high := Nat.lt_of_le_of_ne dynamic.2 notLast
  have same := self.scanned_toNat
  unfold udpDynamicPortRangeSpan udpDynamicPortRangeEnd udpDynamicPortRangeStart at *
  generalize self.dynamicPortScanStart.toNat = start at same
  refine ⟨(port.toNat - 0xC000 + (0xFFFF - 0xC000) - start % (0xFFFF - 0xC000)) % (0xFFFF - 0xC000), by omega, ?_⟩
  rw [← UInt16.toNat_inj, same]
  omega

theorem scanned_dynamic (self : NipStack) (i : Nat) :
    IsDynamic (self.scanned i) ∧ (self.scanned i).toNat ≠ udpDynamicPortRangeEnd := by
  have small : (self.dynamicPortScanStart.toNat + i) % udpDynamicPortRangeSpan < udpDynamicPortRangeSpan :=
    Nat.mod_lt _ (by decide)
  unfold IsDynamic
  rw [scanned_toNat]
  unfold udpDynamicPortRangeSpan udpDynamicPortRangeEnd udpDynamicPortRangeStart at *
  omega

/-- The search stops at the first port that no endpoint has. -/
theorem scanPorts_some {self : NipStack} {n i found : Nat} {port : UInt16}
    (finds : self.scanPorts n i = some (found, port)) : port = self.scanned found ∧ port ∉ self.ports := by
  induction n generalizing i with
  | zero => cases finds
  | succ n ih =>
      unfold scanPorts at finds
      dsimp only at finds
      split at finds
      case isTrue unused =>
          cases finds
          exact ⟨rfl, not_mem_ports.mp (by simpa using unused)⟩
      case isFalse => exact ih finds

theorem scanPorts_none {self : NipStack} {n i : Nat} (fails : self.scanPorts n i = none) :
    ∀ j, i ≤ j → j < i + n → self.scanned j ∈ self.ports := by
  induction n generalizing i with
  | zero => exact fun j low high => by omega
  | succ n ih =>
      unfold scanPorts at fails
      dsimp only at fails
      split at fails
      case isTrue => cases fails
      case isFalse used =>
          intro j low high
          rcases Nat.eq_or_lt_of_le low with rfl | later
          · apply udpSrcPortInUse_iff.mp
            cases inUse : self.udpSrcPortInUse (self.scanned i) with
            | true => rfl
            | false => exact absurd (show (!self.udpSrcPortInUse (self.scanned i)) = true by rw [inUse]; rfl) used
          · exact ih fails j later (by omega)

/-- The search fails when all ports of the range are in use but perhaps the last one. -/
theorem scanPorts_none_iff {self : NipStack} :
    self.scanPorts udpDynamicPortRangeSpan 0 = none ↔
      ∀ port, IsDynamic port → port.toNat ≠ udpDynamicPortRangeEnd → port ∈ self.ports := by
  constructor
  · intro fails port dynamic notLast
    obtain ⟨i, small, rfl⟩ := self.scanned_of_dynamic dynamic notLast
    exact scanPorts_none fails i (Nat.zero_le _) (by omega)
  · intro used
    cases finds : self.scanPorts udpDynamicPortRangeSpan 0 with
    | none => rfl
    | some found =>
        obtain ⟨isScanned, unused⟩ := scanPorts_some finds
        obtain ⟨dynamic, notLast⟩ := self.scanned_dynamic found.1
        rw [← isScanned] at dynamic notLast
        exact absurd (used _ dynamic notLast) unused

/-! ## Runs -/

/-- What a step does to the local ports: some may go, or one that was unused is added. -/
inductive PortsStep (before after : List UInt16) : Prop where
  | kept (sublist : after.Sublist before)
  | added (port : UInt16) (unused : port ∉ before) (after_eq : after = before ++ [port])

theorem PortsStep.nodup {before after : List UInt16} (step : PortsStep before after) (nodup : before.Nodup) :
    after.Nodup := by
  cases step with
  | kept sublist => exact nodup.sublist sublist
  | added port unused after_eq =>
      rw [after_eq, List.nodup_append]
      refine ⟨nodup, List.nodup_cons.mpr ⟨List.not_mem_nil, List.nodup_nil⟩, ?_⟩
      rintro old member new isNew rfl
      cases List.mem_singleton.mp isNew
      exact unused member

theorem ports_addUdpEndpoint (self : NipStack) (endpoint : NipUdpEndpoint) :
    PortsStep self.ports (self.addUdpEndpoint endpoint).1.ports := by
  unfold NipStack.addUdpEndpoint
  dsimp only
  split
  case isTrue => exact .kept (List.Sublist.refl _)
  case isFalse =>
      split
      case isTrue =>
          cases finds : self.scanPorts udpDynamicPortRangeSpan 0 with
          | none => exact .kept (List.Sublist.refl _)
          | some found => exact .added _ (scanPorts_some finds).2 (by simp [ports])
      case isFalse =>
          split
          case isTrue => exact .kept (List.Sublist.refl _)
          case isFalse unused => exact .added _ (not_mem_ports.mp (by simpa using unused)) (by simp [ports])

theorem ports_removeEndpoint (self : NipStack) (id : Nat) : PortsStep self.ports (self.removeEndpoint id).1.ports := by
  unfold removeEndpoint
  split
  case isTrue => exact .kept (List.filter_sublist.map _)
  case isFalse => exact .kept (List.Sublist.refl _)

theorem ports_setDataSink (self : NipStack) (id : Nat) (isSet : Bool) : (self.setDataSink id isSet).ports = self.ports := by
  unfold ports setDataSink
  rw [List.map_map]
  apply List.map_congr_left
  intro endpoint _
  dsimp only [Function.comp_apply]
  split <;> rfl

/-- A packet that is sent takes an identification, and nothing else. -/
theorem endpointPutData_stack {self after : NipStack} {endpoint : NipUdpEndpoint} {data : List UInt8}
    {metadata : Option BufferMetadata} {sent : Except Error (List UInt8)}
    (put : self.endpointPutData endpoint data metadata = .ok (after, sent)) :
    after = { self with nextIpIdentification := after.nextIpIdentification } := by
  unfold NipStack.endpointPutData at put
  dsimp only at put
  split at put
  case isTrue =>
      cases put
      rfl
  case isFalse =>
      split at put
      case isTrue =>
          cases put
          rfl
      case isFalse =>
          split at put
          case isTrue =>
              cases put
              rfl
          case isFalse =>
              obtain ⟨packet, _, same⟩ := bind_ok put
              cases same
              rfl

theorem endpointPutData_step {self self' : NipStack} {id : Nat} {data : List UInt8} {metadata : Option BufferMetadata}
    (steps : self.step (.endpointPutData id data metadata) = .ok self') :
    self' = { self with nextIpIdentification := self'.nextIpIdentification } := by
  unfold NipStack.step at steps
  dsimp only at steps
  cases found : self.udpEndpoints.find? (·.id = id) with
  | none =>
      rw [found] at steps
      cases steps
      rfl
  | some endpoint =>
      rw [found] at steps
      obtain ⟨⟨after, sent⟩, put, same⟩ := bind_ok steps
      cases same
      exact endpointPutData_stack put

theorem ports_step {self self' : NipStack} {step : NipStep} (steps : self.step step = .ok self') :
    PortsStep self.ports self'.ports := by
  cases step with
  | configure netifAddress =>
      cases steps
      exact .kept (List.Sublist.refl _)
  | setTransportSink isSet =>
      cases steps
      exact .kept (List.Sublist.refl _)
  | addUdpEndpoint endpoint =>
      cases steps
      exact ports_addUdpEndpoint self endpoint
  | removeEndpoint id =>
      cases steps
      exact ports_removeEndpoint self id
  | setDataSink id isSet =>
      cases steps
      rw [ports_setDataSink]
      exact .kept (List.Sublist.refl _)
  | endpointPutData id data metadata =>
      rw [endpointPutData_step steps]
      exact .kept (List.Sublist.refl _)
  | putData packet =>
      obtain ⟨delivery, _, same⟩ := bind_ok steps
      cases same
      exact .kept (List.Sublist.refl _)

/-- Every run keeps the local ports apart. -/
theorem ports_run {self self' : NipStack} {steps : List NipStep} (nodup : self.ports.Nodup)
    (runs : self.run steps = .ok self') : self'.ports.Nodup :=
  @Runs.run_keeps _ _ _ _ _ _ (fun self : NipStack => self.ports.Nodup) _
    (fun _ _ _ nodup _ steps => (ports_step steps).nodup nodup) nodup _ (fun _ _ => trivial) runs

/-! ## Allocation -/

/-- A free port of the dynamic range, if there is one, is given to an endpoint that asks for any port. -/
def Allocates (self : NipStack) (endpoint : NipUdpEndpoint) : Prop :=
  (∃ port, IsDynamic port ∧ port ∉ self.ports) →
    ∃ port, IsDynamic port ∧ port ∉ self.ports ∧ (self.addUdpEndpoint endpoint).2 = .ok () ∧
      (self.addUdpEndpoint endpoint).1.ports = self.ports ++ [port]

/-- The endpoint is not in the list. -/
def Unlinked (self : NipStack) (endpoint : NipUdpEndpoint) : Prop := ∀ other ∈ self.udpEndpoints, other.id ≠ endpoint.id

instance (self : NipStack) (endpoint : NipUdpEndpoint) : Decidable (self.Unlinked endpoint) :=
  inferInstanceAs (Decidable (∀ _ ∈ _, _))

theorem addUdpEndpoint_unlinked {self : NipStack} {endpoint : NipUdpEndpoint} (unlinked : self.Unlinked endpoint) :
    self.udpEndpoints.any (·.id = endpoint.id) = false := by
  apply List.any_eq_false.mpr
  intro other member
  simpa using unlinked other member

theorem addUdpEndpoint_dynamic {self : NipStack} {endpoint : NipUdpEndpoint} (unlinked : self.Unlinked endpoint)
    (anyPort : endpoint.localAddress.port = 0) {found : Nat} {port : UInt16}
    (finds : self.scanPorts udpDynamicPortRangeSpan 0 = some (found, port)) :
    (self.addUdpEndpoint endpoint).2 = .ok () ∧ (self.addUdpEndpoint endpoint).1.ports = self.ports ++ [port] := by
  unfold addUdpEndpoint
  simp [addUdpEndpoint_unlinked unlinked, anyPort, finds, ports]

theorem addUdpEndpoint_exhausted {self : NipStack} {endpoint : NipUdpEndpoint} (unlinked : self.Unlinked endpoint)
    (anyPort : endpoint.localAddress.port = 0) (fails : self.scanPorts udpDynamicPortRangeSpan 0 = none) :
    self.addUdpEndpoint endpoint = (self, .error .outOfResources) := by
  unfold addUdpEndpoint
  simp [addUdpEndpoint_unlinked unlinked, anyPort, fails]

theorem addUdpEndpoint_explicit {self : NipStack} {endpoint : NipUdpEndpoint} (unlinked : self.Unlinked endpoint)
    (hasPort : endpoint.localAddress.port ≠ 0) (unused : endpoint.localAddress.port ∉ self.ports) :
    self.addUdpEndpoint endpoint =
      ({ self with udpEndpoints := self.udpEndpoints ++ [{ endpoint with
          localAddress := ⟨if endpoint.localAddress.address = 0 then self.address else endpoint.localAddress.address,
            endpoint.localAddress.port⟩
          localPortBound := true }] }, .ok ()) := by
  unfold addUdpEndpoint
  simp [addUdpEndpoint_unlinked unlinked, hasPort, not_mem_ports.mpr unused]

/-- An endpoint is not added with a port that is in use. -/
theorem addUdpEndpoint_refused {self : NipStack} {endpoint : NipUdpEndpoint} (hasPort : endpoint.localAddress.port ≠ 0)
    (used : endpoint.localAddress.port ∈ self.ports) :
    ∃ error, self.addUdpEndpoint endpoint = (self, .error error) := by
  unfold addUdpEndpoint
  cases linked : self.udpEndpoints.any (·.id = endpoint.id) with
  | true => exact ⟨.invalidState, by simp⟩
  | false => exact ⟨.addressInUse, by simp [hasPort, udpSrcPortInUse_iff.mpr used]⟩

/-- A dynamic port is found exactly when the search meets one that is free: it does not look at the last one. -/
theorem allocates_iff {self : NipStack} {endpoint : NipUdpEndpoint} (unlinked : self.Unlinked endpoint)
    (anyPort : endpoint.localAddress.port = 0) :
    self.Allocates endpoint ↔ 0xFFFF ∈ self.ports ∨ ∃ port, IsDynamic port ∧ port ≠ 0xFFFF ∧ port ∉ self.ports := by
  have isLast : ∀ port : UInt16, port.toNat = udpDynamicPortRangeEnd ↔ port = 0xFFFF := fun port =>
    ⟨fun same => UInt16.toNat_inj.mp same, fun same => by rw [same]; rfl⟩
  have lastDynamic : IsDynamic 0xFFFF := ⟨by decide, by decide⟩
  unfold Allocates
  cases finds : self.scanPorts udpDynamicPortRangeSpan 0 with
  | none =>
      have used := scanPorts_none_iff.mp finds
      constructor
      · intro allocates
        left
        by_contra lastUnused
        obtain ⟨port, _, _, added, _⟩ := allocates ⟨0xFFFF, lastDynamic, lastUnused⟩
        rw [addUdpEndpoint_exhausted unlinked anyPort finds] at added
        cases added
      · rintro free ⟨port, dynamic, unused⟩
        have last : port = 0xFFFF := by
          by_contra notLast
          exact unused (used port dynamic (fun same => notLast ((isLast port).mp same)))
        rcases free with lastUsed | ⟨other, dynamic', notLast, unused'⟩
        · exact absurd (last ▸ lastUsed) unused
        · exact absurd (used other dynamic' (fun same => notLast ((isLast other).mp same))) unused'
  | some found =>
      obtain ⟨isScanned, unused⟩ := scanPorts_some finds
      obtain ⟨dynamic, notLast⟩ := self.scanned_dynamic found.1
      rw [← isScanned] at dynamic notLast
      constructor
      · exact fun _ => .inr ⟨found.2, dynamic, fun same => notLast ((isLast _).mpr same), unused⟩
      · intro _ _
        exact ⟨found.2, dynamic, unused, addUdpEndpoint_dynamic unlinked anyPort finds⟩

end NipStack

/-- After any run the local ports are distinct, a port in use is refused, and a dynamic port is found
    unless port 65535 is the only free one. -/
theorem ports_of_run (steps : List NipStep) (stack : NipStack) (reached : NipStack.initialized.run steps = .ok stack) :
    stack.ports.Nodup ∧
      (∀ endpoint : NipUdpEndpoint, endpoint.localAddress.port ≠ 0 → endpoint.localAddress.port ∈ stack.ports →
        ∃ error, stack.addUdpEndpoint endpoint = (stack, .error error)) ∧
      ∀ endpoint, stack.Unlinked endpoint → endpoint.localAddress.port = 0 →
        (stack.Allocates endpoint ↔
          0xFFFF ∈ stack.ports ∨ ∃ port, IsDynamic port ∧ port ≠ 0xFFFF ∧ port ∉ stack.ports) :=
  ⟨NipStack.ports_run (show NipStack.initialized.ports.Nodup from List.nodup_nil) reached, fun _ hasPort used => NipStack.addUdpEndpoint_refused hasPort used,
    fun _ unlinked anyPort => NipStack.allocates_iff unlinked anyPort⟩

theorem ports_of_explicit_port :
    NipStack.Allocates ((NipStack.initialized.addUdpEndpoint (.init 1 (some ⟨0, 0xC000⟩) none false)).1)
      (.init 2 none none false) :=
  ((ports_of_run [.addUdpEndpoint (.init 1 (some ⟨0, 0xC000⟩) none false)] _ rfl).2.2 (.init 2 none none false)
    (by decide) rfl).mpr (.inr ⟨0xC001, ⟨by decide, by decide⟩, by decide, by decide⟩)

/-! ## A full range -/

/-- An endpoint for the port with a number. -/
def numbered (i : Nat) : NipUdpEndpoint := .init i (some ⟨0, UInt16.ofNat (udpDynamicPortRangeStart + i)⟩) none false

/-- The stack with endpoints for the first ports of the range. -/
def filled (n : Nat) : NipStack :=
  { NipStack.initialized with udpEndpoints := (List.range n).map fun i => { numbered i with localPortBound := true } }

theorem numbered_port {i : Nat} (small : i ≤ udpDynamicPortRangeSpan) :
    (numbered i).localAddress.port.toNat = udpDynamicPortRangeStart + i := by
  unfold udpDynamicPortRangeSpan udpDynamicPortRangeEnd udpDynamicPortRangeStart at *
  simp only [numbered, NipUdpEndpoint.init, Option.getD_some, UInt16.toNat_ofNat', udpDynamicPortRangeStart]
  omega

theorem mem_filled_ports {n : Nat} {port : UInt16} :
    port ∈ (filled n).ports ↔ ∃ i < n, (numbered i).localAddress.port = port := by
  simp [NipStack.ports, filled]

theorem filled_unlinked {n : Nat} {endpoint : NipUdpEndpoint} (isNext : endpoint.id = n) : (filled n).Unlinked endpoint := by
  intro other member
  obtain ⟨i, lt, rfl⟩ := List.mem_map.mp member
  rw [isNext]
  exact Nat.ne_of_lt (List.mem_range.mp lt)

theorem run_filled {n : Nat} (small : n ≤ udpDynamicPortRangeSpan) :
    NipStack.initialized.run ((List.range n).map fun i => .addUdpEndpoint (numbered i)) = .ok (filled n) := by
  induction n with
  | zero => rfl
  | succ n ih =>
      have isPort := numbered_port (i := n) (by omega)
      have unlinked : (filled n).Unlinked (numbered n) := filled_unlinked rfl
      have hasPort : (numbered n).localAddress.port ≠ 0 := by
        intro zero
        rw [zero, UInt16.toNat_zero] at isPort
        unfold udpDynamicPortRangeStart at isPort
        omega
      have unused : (numbered n).localAddress.port ∉ (filled n).ports := by
        rintro member
        obtain ⟨i, lt, same⟩ := mem_filled_ports.mp member
        have other := numbered_port (i := i) (by omega)
        rw [same, isPort] at other
        omega
      have added := NipStack.addUdpEndpoint_explicit unlinked hasPort unused
      unfold NipStack.run at ih ⊢
      rw [List.range_succ, List.map_append, List.foldlM_append, ih (by omega), ok_bind]
      simp only [List.map_cons, List.map_nil, List.foldlM_cons, List.foldlM_nil, NipStack.step, added, pure_ok, ok_bind]
      simp [filled, List.range_succ, numbered, NipUdpEndpoint.init, NipStack.initialized]

/-- With all other ports of the range in use, port 65535 is not given. -/
theorem last_port_not_allocated :
    ¬∀ (steps : List NipStep) (stack : NipStack), NipStack.initialized.run steps = .ok stack →
      ∀ endpoint, stack.Unlinked endpoint → endpoint.localAddress.port = 0 → stack.Allocates endpoint := by
  intro allocates
  have unlinked : (filled udpDynamicPortRangeSpan).Unlinked (.init udpDynamicPortRangeSpan none none false) :=
    filled_unlinked rfl
  have allocated := allocates _ _ (@run_filled udpDynamicPortRangeSpan (Nat.le_refl _)) _ unlinked rfl
  rcases (NipStack.allocates_iff unlinked rfl).mp allocated with used | ⟨port, dynamic, notLast, unused⟩
  · obtain ⟨i, lt, same⟩ := mem_filled_ports.mp used
    have isPort := numbered_port (Nat.le_of_lt lt)
    rw [same] at isPort
    unfold udpDynamicPortRangeSpan udpDynamicPortRangeEnd udpDynamicPortRangeStart at *
    rw [show (0xFFFF : UInt16).toNat = 0xFFFF from rfl] at isPort
    omega
  · have below : port.toNat ≠ 0xFFFF := fun same => notLast (UInt16.toNat_inj.mp same)
    obtain ⟨low, high⟩ := dynamic
    unfold udpDynamicPortRangeEnd udpDynamicPortRangeStart at *
    have small : port.toNat - 0xC000 < udpDynamicPortRangeSpan := by
      unfold udpDynamicPortRangeSpan udpDynamicPortRangeEnd udpDynamicPortRangeStart
      omega
    have isPort := numbered_port (Nat.le_of_lt small)
    unfold udpDynamicPortRangeStart at isPort
    exact unused (mem_filled_ports.mpr ⟨port.toNat - 0xC000, small, UInt16.toNat_inj.mp (by omega)⟩)

end GoldenGate.Nip
