import DeviceGateway.Proofs.Net.Address
import DeviceGateway.Settings.Basic

/-
  Where a gateway binds. Its listener and its discovery responder have the address that the settings
  name, each with its own port (`bound_addresses`). The address is pasted in front of the port as it
  is, so one of IPv6 has to be written in brackets there; the text of the address alone is refused
  (`loopback_needs_brackets`).
-/

namespace DeviceGateway.Settings

open Net

theorem addressOf_eq_some_iff {host : String} {port : UInt16} {a : Address} :
    addressOf? host port = some a ↔ ∃ ip, HostText host.toList ip ∧ a = ⟨ip, port.toNat⟩ := by
  unfold addressOf?
  rw [parse_pasted (Nat.le_of_lt_succ port.toNat_lt)]
  constructor
  · rintro ⟨hhost, hport⟩
    exact ⟨a.ip, hhost, by rw [← hport]⟩
  · rintro ⟨ip, hhost, rfl⟩
    exact ⟨hhost, rfl⟩

/-- The listener binds just when the address of the settings is a host, that is an IPv4 address or
an IPv6 address in brackets, and then it binds to that address with just the configured port; so
does the discovery responder with its own. So every text of an IPv4 address gives both of them that
address, and the text of an IPv6 address, which has no brackets, gives them none. -/
theorem bound_addresses (s : Settings) :
    (∀ a, s.bindAddress? = some a ↔
      ∃ ip, HostText s.server.bindAddress.toList ip ∧ a = ⟨ip, s.server.port.toNat⟩) ∧
    (∀ a, s.discoveryAddress? = some a ↔
      ∃ ip, HostText s.server.bindAddress.toList ip ∧ a = ⟨ip, s.discovery.port.toNat⟩) ∧
    (∀ w x y z, AddressText s.server.bindAddress.toList (.v4 w x y z) →
      s.bindAddress? = some ⟨.v4 w x y z, s.server.port.toNat⟩ ∧
        s.discoveryAddress? = some ⟨.v4 w x y z, s.discovery.port.toNat⟩) ∧
    ∀ gs n, AddressText s.server.bindAddress.toList (.v6 gs n) →
      s.bindAddress? = none ∧ s.discoveryAddress? = none := by
  refine ⟨fun a => addressOf_eq_some_iff, fun a => addressOf_eq_some_iff, ?_, ?_⟩
  · intro w x y z htext
    have hhost : HostText s.server.bindAddress.toList (.v4 w x y z) := htext.host
    exact ⟨addressOf_eq_some_iff.mpr ⟨_, hhost, rfl⟩, addressOf_eq_some_iff.mpr ⟨_, hhost, rfl⟩⟩
  · intro gs n htext
    have hnone : ∀ port, addressOf? s.server.bindAddress port = none := by
      refine fun port => Option.eq_none_iff_forall_ne_some.mpr fun a ha => ?_
      obtain ⟨ip, hhost, -⟩ := addressOf_eq_some_iff.mp ha
      exact htext.groups.not_host ip hhost
    exact ⟨hnone _, hnone _⟩

/-- The text of the loopback address of IPv6. -/
theorem loopback_groups : GroupsText "::1".toList [0, 0, 0, 0, 0, 0, 0, 1] :=
  .short (.inl ⟨rfl, rfl, rfl⟩ : RowOrNone false [] []) (.inr (.last ⟨⟨0, rfl⟩, by decide⟩))
    (by decide)

theorem loopback_addresses :
    AddressText "127.0.0.1".toList (.v4 127 0 0 1) ∧
      AddressText "::1".toList (.v6 [0, 0, 0, 0, 0, 0, 0, 1] 0) ∧
      (bindAddress? { server := { bindAddress := "127.0.0.1" } } = some ⟨.v4 127 0 0 1, 8443⟩ ∧
        discoveryAddress? { server := { bindAddress := "127.0.0.1" } } =
          some ⟨.v4 127 0 0 1, 20801⟩) ∧
      bindAddress? { server := { bindAddress := "::1" } } = none ∧
        discoveryAddress? { server := { bindAddress := "::1" } } = none := by
  have hv4 : AddressText "127.0.0.1".toList (.v4 127 0 0 1) :=
    .v4 (w := 127) (x := 0) (y := 0) (z := 1) ⟨by decide, by decide, by decide, by decide⟩
  have hv6 : AddressText "::1".toList (.v6 [0, 0, 0, 0, 0, 0, 0, 1] 0) := .v6 loopback_groups
  exact ⟨hv4, hv6,
    (bound_addresses { server := { bindAddress := "127.0.0.1" } }).2.2.1 _ _ _ _ hv4,
    (bound_addresses { server := { bindAddress := "::1" } }).2.2.2 _ _ hv6⟩

/-- The loopback address of IPv6 is refused as it is written, and taken in brackets, which make it a
text that is no address. -/
theorem loopback_needs_brackets :
    AddressText "::1".toList (.v6 [0, 0, 0, 0, 0, 0, 0, 1] 0) ∧
      bindAddress? { server := { bindAddress := "::1" } } = none ∧
      (∀ ip, ¬ AddressText "[::1]".toList ip) ∧
      bindAddress? { server := { bindAddress := "[::1]" } } =
        some ⟨.v6 [0, 0, 0, 0, 0, 0, 0, 1] 0, 8443⟩ := by
  refine ⟨.v6 loopback_groups, by decide +kernel, fun ip hip => ?_, by decide +kernel⟩
  have hbracket : '[' ∈ "[::1]".toList := by decide
  exact hip.no_bracket hbracket

end DeviceGateway.Settings
