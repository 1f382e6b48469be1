import NetSurvey.Proofs.Probe.Calls
import NetSurvey.Proofs.Scan.Survey

/-!
# How many ports are tried

A scan of ports that makes a call at all attempts one connection for each port that its choice
means, and no other. Ports that are written or listed are in range, and there are no more of them
than the settings allow. The usual ports are not counted against that limit: a scan of them attempts
six connections also where fewer are allowed.
-/

namespace NetSurvey

/-! ### Written and listed ports -/

/-- A number that a port can have. -/
def IsPort (n : Int) : Prop :=
  1 ≤ n ∧ n ≤ maxPort

/-- Ports that are all in range, and no more than a limit allows after those that were taken. -/
structure Within (limit : Int) (taken : Nat) (ports : List Int) : Prop where
  isPort : ∀ port ∈ ports, IsPort port
  length_le : ports ≠ [] → taken + ports.length ≤ limit

theorem Within.nil (limit : Int) (taken : Nat) : Within limit taken [] := ⟨nofun, nofun⟩

theorem Within.append {limit : Int} {taken : Nat} {ports more : List Int}
    (hports : Within limit taken ports) (hmore : Within limit (taken + ports.length) more) :
    Within limit taken (ports ++ more) := by
  refine ⟨fun port hport => ?_, fun hne => ?_⟩
  · exact (List.mem_append.mp hport).elim (hports.isPort port) (hmore.isPort port)
  · rw [List.length_append]
    cases more with
    | nil =>
      rw [List.append_nil] at hne
      exact hports.length_le hne
    | cons port more =>
      have hle := hmore.length_le (List.cons_ne_nil port more)
      omega

namespace PortSpec

/-- A range is clipped to the ports that exist. -/
theorem bounds_of_read {cs : Text} {first last : Int} (h : Token.read cs = .range first last) :
    1 ≤ first ∧ last ≤ maxPort := by
  revert h
  fun_cases Token.read cs <;> simp only [Token.range.injEq, reduceCtorEq, false_implies]
  · omega
  · omega

theorem isPort_of_mem_read {cs : Text} {port : Int} (h : port ∈ (Token.read cs).ports) :
    IsPort port := by
  cases hread : Token.read cs with
  | range first last =>
    obtain ⟨hfirst, hlast⟩ := bounds_of_read hread
    rw [hread, Token.ports, List.mem_map] at h
    obtain ⟨i, hi, rfl⟩ := h
    have hlt := List.mem_range.mp hi
    exact ⟨by omega, by omega⟩
  | _ =>
    rw [hread] at h
    cases h

theorem within_expandTokens {limit : Int} {specs : List Text} {taken : Nat} {ports : List Int}
    (h : expandTokens (some limit) taken (specs.map Token.read) = .ok ports) :
    Within limit taken ports := by
  induction specs generalizing taken ports with
  | nil =>
    obtain rfl := Except.ok.inj h
    exact .nil ..
  | cons spec specs ih =>
    rw [List.map_cons, expandTokens] at h
    split at h
    case isTrue => cases h
    case isFalse hfits =>
      split at h
      case h_2 => cases h
      case h_1 more hmore =>
        obtain rfl := Except.ok.inj h
        -- A token is checked against what is left of the limit before its ports are taken.
        have hports : Within limit taken (Token.read spec).ports := by
          refine ⟨fun port => isPort_of_mem_read, fun hne => ?_⟩
          have hpos := List.length_pos_iff.mpr hne
          rw [Token.length_ports] at hpos ⊢
          simp only [exceeds, Bool.and_eq_true, decide_eq_true_eq, not_and, Int.not_lt] at hfits
          exact hfits hpos
        refine hports.append (ih ?_)
        rwa [Token.length_ports]

end PortSpec

namespace Scan

open Activity Schedule Probe

theorem yields_listPorts (limit : Int) (items : List Datum) (taken : Nat) :
    (listPorts limit taken items).Yields (Within limit taken) := by
  induction items generalizing taken with
  | nil => exact .pure (.nil ..)
  | cons item items ih =>
    refine .bind fun port => ?_
    split
    case isTrue hport =>
      split
      case isTrue hlimit => exact .throw
      case isFalse hlimit =>
        have hfirst : Within limit taken [port] :=
          ⟨List.forall_mem_singleton.mpr hport, fun _ => Int.not_le.mp hlimit⟩
        exact .bind_of (ih (taken + 1)) fun ports hports => .pure (hfirst.append hports)
    case isFalse hport => exact .bind fun _ => ih taken

/-- Written and listed ports are in range and within the limit. -/
theorem yields_choosePorts (s : Settings) {choice : PortChoice} (h : choice ≠ .usual) :
    (choosePorts s choice).Yields (Within s.maxPorts 0) := by
  cases choice with
  | usual => exact absurd rfl h
  | listed items => exact .bind fun items => yields_listPorts s.maxPorts items 0
  | written spec =>
    intro watch ports hports
    rw [result_writtenPorts] at hports
    cases hexpand : PortSpec.expand spec (some s.maxPorts) with
    | error e =>
      rw [hexpand] at hports
      cases hports
    | ok found =>
      rw [hexpand] at hports
      obtain rfl := Except.ok.inj hports
      exact PortSpec.within_expandTokens hexpand

/-! ### Connections -/

variable (order : Order) (w : World) (scanner : Scanner)

variable {host : Datum} {choice : PortChoice} {chosen : List Int}

variable {scanner} in
/-- A scan that has its ports and a worker attempts one connection for each port. -/
theorem connections_of_portsOf (hchosen : Survey.portsOf scanner.settings host choice = .ok chosen)
    (hworkers : 1 ≤ scanner.workers) (watch : Stopwatch) :
    (((ports order w scanner host choice).run watch).calls.filter Call.isConnect).Perm
      (chosen.map fun port => .connect host.display port (some scanner.timeout)) := by
  obtain ⟨-, -, hcalls⟩ := agrees_ports order w scanner host choice watch
  rw [hchosen, ofExcept_ok_bind] at hcalls
  rw [hcalls]
  exact filter_calls_carryOut (fun _ _ => connections_portOpen ..) hworkers watch

/-- **One connection for each port, or none at all.** -/
theorem connections_ports (host : Datum) (choice : PortChoice) (watch : Stopwatch) :
    let attempt := (ports order w scanner host choice).run watch
    ((∃ e, attempt.result = .error e) ∧ attempt.calls = []) ∨
      ∃ chosen, (choosePorts scanner.settings choice).value = .ok chosen ∧ chosen ≠ [] ∧
        (attempt.calls.filter Call.isConnect).Perm
          (chosen.map fun port => .connect host.display port (some scanner.timeout)) := by
  intro attempt
  obtain ⟨hresult, -, hcalls⟩ := agrees_ports order w scanner host choice watch
  cases hfound : Survey.portsOf scanner.settings host choice with
  | error e =>
    rw [hfound] at hresult hcalls
    exact .inl ⟨⟨e, hresult⟩, hcalls⟩
  | ok chosen =>
    -- Without a worker the scan fails where its schedule is set up.
    by_cases hworkers : scanner.workers < 1
    · rw [hfound, ofExcept_ok_bind, run_carryOut_of_no_worker hworkers] at hresult hcalls
      exact .inl ⟨⟨_, hresult⟩, hcalls⟩
    · obtain ⟨hchosen, hne⟩ := Survey.of_checked_eq_ok hfound
      exact .inr ⟨chosen, hchosen, hne, connections_of_portsOf order w hfound (by omega) watch⟩

/-! ### The limit -/

theorem defaultPorts_ofEnvironment (env : Environment) :
    (Settings.ofEnvironment env).1.defaultPorts = [22, 80, 443, 3306, 3389, 8080] := rfl

/-- **How many ports are tried.** With settings from any environment, a scan of ports fails without
a call, or it attempts one connection for each port that is chosen, and all of these are in range.
There are no more attempts than the settings allow exactly if the ports are not the usual ones or
six ports are allowed. -/
theorem port_attempts (env : Environment) (order : Order) (w : World) (workers : Option Int)
    (timeout : Option Number) (host : Datum) (choice : PortChoice) (watch : Stopwatch) :
    let settings := (Settings.ofEnvironment env).1
    let scanner := Scanner.ofKind .ports settings workers timeout
    let attempt := (ports order w scanner host choice).run watch
    let attempted := attempt.calls.filter Call.isConnect
    ((∃ e, attempt.result = .error e) ∧ attempt.calls = []) ∨
      ∃ chosen, (choosePorts settings choice).value = .ok chosen ∧
        attempted.Perm
          (chosen.map fun port => .connect host.display port (some scanner.timeout)) ∧
        (∀ port ∈ chosen, 1 ≤ port ∧ port ≤ 65535) ∧
        (attempted.length ≤ settings.maxPorts ↔ (choice = .usual → 6 ≤ settings.maxPorts)) := by
  intro settings scanner attempt attempted
  obtain hnone | ⟨chosen, hchosen, hne, hperm⟩ :=
    connections_ports order w scanner host choice watch
  · exact .inl hnone
  refine .inr ⟨chosen, hchosen, hperm, ?_⟩
  have hlength : attempted.length = chosen.length := by rw [hperm.length_eq, List.length_map]
  by_cases husual : choice = .usual
  · subst husual
    obtain rfl : settings.defaultPorts = chosen := Except.ok.inj hchosen
    rw [hlength, defaultPorts_ofEnvironment env]
    exact ⟨by decide, fun h _ => h, fun h => h rfl⟩
  · have hwithin := yields_choosePorts settings husual [] chosen hchosen
    refine ⟨hwithin.isPort, fun _ h => absurd h husual, fun _ => ?_⟩
    have hle := hwithin.length_le hne
    omega

/-- Three ports are allowed, and the usual six are tried. -/
theorem usual_ports_exceed_limit :
    let env : Environment := fun name => if name = "RECONLAB_MAX_PORTS" then some "3" else none
    let settings := (Settings.ofEnvironment env).1
    let scanner := Scanner.ofKind .ports settings none none
    let attempt := (ports .serial World.closed scanner (.text "h") .usual).run []
    settings.maxPorts = 3 ∧ (attempt.calls.filter Call.isConnect).length = 6 := by
  intro env settings scanner attempt
  have hchosen : Survey.portsOf scanner.settings (.text "h") .usual =
      .ok settings.defaultPorts := rfl
  have hperm := connections_of_portsOf .serial World.closed hchosen (by decide) []
  refine ⟨by decide, ?_⟩
  rw [hperm.length_eq]
  rfl

end Scan

end NetSurvey
