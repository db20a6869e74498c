import ServiceRouter.Foundation.Authority
import ServiceRouter.Proxy.UpstreamUrl
import ServiceRouter.Registry.Kubernetes

/-!
# The base URL of an instance

A base URL is read back as the grammar of authorities has it.  The host and the
port of an instance are found again unless the host is an IPv6 address, which a
URL would have in brackets.
-/

namespace ServiceRouter

open Foundation

/-- Made of the characters that the labels of a name have, and dots. -/
def isDnsName (host : String) : Bool :=
  !host.toList.isEmpty &&
    host.toList.all fun c => c.isAlphanum || c == '-' || c == '_' || c == '.'

/-- The authority of an `http` URL, when it is well formed. -/
def parseHttpAuthority (url : String) : Option Authority :=
  if startsWith url "http://"
  then (authorityOf url).bind fun authority => parseAuthority authority.toList
  else none

/-- The base URL is well formed and has exactly the host and the port of the
instance in it. -/
def ServiceInstance.RoundTrips (inst : ServiceInstance) : Prop :=
  parseHttpAuthority inst.baseUrl =
    some { userinfo := none, host := inst.host.toList, port := some inst.port }

theorem endsAuthority_of_isUnreserved {c : Char}
    (h : c = ':' ∨ isUnreserved c = true) : endsAuthority c = false := by
  by_contra hends
  simp only [endsAuthority, Bool.not_eq_false, Bool.or_eq_true,
    beq_iff_eq] at hends
  rcases hends with (rfl | rfl) | rfl
  · exact absurd h (by decide)
  · exact absurd h (by decide)
  · exact absurd h (by decide)

theorem parseHttpAuthority_baseUrl {inst : ServiceInstance}
    (hhost : ∀ c ∈ inst.host.toList, c = ':' ∨ isUnreserved c = true) :
    parseHttpAuthority inst.baseUrl =
      parseAuthority
        (inst.host.toList ++ ':' :: (toString inst.port).toList) := by
  have hchars : inst.baseUrl.toList = "http://".toList ++
      (inst.host.toList ++ ':' :: (toString inst.port).toList) := by
    simp [ServiceInstance.baseUrl, toString]
  have hstart : startsWith inst.baseUrl "http://" = true := by
    rw [startsWith_iff, hchars]
    exact List.prefix_append _ _
  have hall : ∀ c ∈ inst.host.toList ++ ':' :: (toString inst.port).toList,
      (!endsAuthority c) = true := by
    intro c hc
    simp only [List.mem_append, List.mem_cons] at hc
    rw [Bool.not_eq_true', endsAuthority_of_isUnreserved]
    rcases hc with hc | hc | hc
    · exact hhost c hc
    · exact .inl hc
    · exact .inr (by
        simp [isUnreserved, Char.isAlphanum, isDigit_of_mem_toString hc])
  have hscheme : afterScheme inst.baseUrl.toList =
      some (inst.host.toList ++ ':' :: (toString inst.port).toList) := by
    rw [hchars]
    rfl
  rw [parseHttpAuthority, if_pos hstart, authorityOf, hscheme,
    Option.map_some, Option.bind_some, String.toList_ofList,
    List.takeWhile_eq_self_iff.mpr hall]

theorem isUnreserved_of_isDnsName {host : String} (h : isDnsName host = true) :
    ∀ c ∈ host.toList, isUnreserved c = true := by
  simp only [isDnsName, Bool.and_eq_true, List.all_eq_true] at h
  intro c hc
  have hallowed := h.2 c hc
  simp only [isUnreserved, Bool.or_eq_true] at hallowed ⊢
  tauto

/-- The host and the port are found again exactly when the host is not an IPv6
address. -/
theorem baseUrl_roundTrips_iff (inst : ServiceInstance)
    (hhost : isDnsName inst.host = true ∨ isIpv4 inst.host.toList = true ∨
      isIpv6 inst.host.toList = true) :
    inst.RoundTrips ↔ isIpv6 inst.host.toList = false := by
  constructor
  · intro hround
    by_contra hipv6
    rw [Bool.not_eq_false] at hipv6
    have hchars := chars_of_isIpv6 hipv6
    have hopen : '[' ∉
        inst.host.toList ++ ':' :: (toString inst.port).toList := by
      intro hmem
      simp only [List.mem_append, List.mem_cons] at hmem
      rcases hmem with hmem | hmem | hmem
      · exact absurd (hchars '[' hmem) (by decide)
      · exact absurd hmem (by decide)
      · exact absurd (isDigit_of_mem_toString hmem) (by decide)
    rw [ServiceInstance.RoundTrips, parseHttpAuthority_baseUrl hchars]
      at hround
    exact colon_not_mem_host hopen hround (colon_mem_of_isIpv6 hipv6)
  · intro hipv6
    have hchars : ∀ c ∈ inst.host.toList, isUnreserved c = true := by
      rcases hhost with hname | hipv4 | hbad
      · exact isUnreserved_of_isDnsName hname
      · exact isUnreserved_of_isIpv4 hipv4
      · simp [hbad] at hipv6
    rw [ServiceInstance.RoundTrips,
      parseHttpAuthority_baseUrl fun c hc => .inr (hchars c hc),
      parseAuthority_name_port hchars]

/-- A pod with an IPv4 address. -/
theorem baseUrl_roundTrips_at_ipv4 :
    isIpv4 "10.0.0.1".toList = true ∧
      ServiceInstance.RoundTrips { host := "10.0.0.1", port := 8080 } := by
  have hipv4 : isIpv4 "10.0.0.1".toList = true := by decide
  exact ⟨hipv4, (baseUrl_roundTrips_iff { host := "10.0.0.1", port := 8080 }
    (.inr (.inl hipv4))).mpr (by decide)⟩

/-- The IPv6 address that the slices of the registry's test have. -/
theorem baseUrl_ipv6_not_wellFormed :
    endpointSlicesToInstances
        { items := [{
            endpoints := [{ addresses := ["fc00::1"], conditions := {} }]
            ports := [{ port := some 6443, name := none, protocol := none }] }] }
        {} = [{ host := "fc00::1", port := 6443 }] ∧
      isIpv6 "fc00::1".toList = true ∧
      ServiceInstance.baseUrl { host := "fc00::1", port := 6443 } =
        "http://fc00::1:6443" ∧
      parseHttpAuthority "http://fc00::1:6443" = none ∧
      ¬ ServiceInstance.RoundTrips { host := "fc00::1", port := 6443 } := by
  refine ⟨rfl, by decide, by decide, by decide, ?_⟩
  unfold ServiceInstance.RoundTrips
  decide

end ServiceRouter
