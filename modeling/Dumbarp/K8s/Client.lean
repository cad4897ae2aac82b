/-
How `dumbarp-k8s` asks a host for its addresses (`dumbarp-k8s/src/client.rs`).

Unlike the other clients it has its token in a file, which it reads at every pass.
-/
import Dumbarp.Api.Client
import Dumbarp.Engine.Interface
import Dumbarp.K8s.Reconcile

namespace Dumbarp.K8s

open Api Bytes Engine Interact Interact.Prog

/-- `HostConfig::read_token`; `readToString` is the content of files. -/
def HostConfig.readToken (readToString : String → Except String String) (host : HostConfig) :
    Except String String :=
  match readToString host.authTokenFile with
  | .error _ =>
    .error ("reading auth_token_file " ++ host.authTokenFile ++ " for host `" ++ host.name ++ "`")
  | .ok raw =>
    let trimmed := trim raw
    if trimmed = [] then
      .error
        ("auth_token_file " ++ host.authTokenFile ++ " for host `" ++ host.name ++ "` is empty")
    else .ok (String.ofList trimmed)

/-- `fetch_ips`. -/
def fetchIps (readToString : String → Except String String) (join : Join)
    (decode : String → Option LeasesResponse) (host : HostConfig) :
    Fetch (Except String (List Ipv4Addr)) :=
  match host.readToken readToString with
  | .error e => return .error e
  | .ok token => do
    match ← Client.fetchLeases join decode host.url token host.name with
    | .error e => return .error e
    | .ok leases => return .ok leases.ips

/-- A token is read where the file has some text. -/
lemma readToken_eq_ok {readToString : String → Except String String} {host : HostConfig}
    {token : String} :
    host.readToken readToString = .ok token ↔
      ∃ raw, readToString host.authTokenFile = .ok raw ∧ trim raw = token.toList ∧ token ≠ "" := by
  rw [HostConfig.readToken]
  cases hread : readToString host.authTokenFile with
  | error e => simp
  | ok raw =>
    simp only [Except.ok.injEq, exists_eq_left']
    by_cases hempty : trim raw = []
    · rw [if_pos hempty, hempty]
      refine iff_of_false (nomatch ·) fun ⟨htoken, hne⟩ => hne ?_
      rw [← String.toList_inj, ← htoken]
      rfl
    · rw [if_neg hempty, Except.ok.injEq, ← String.toList_inj, String.toList_ofList]
      refine ⟨fun h => ⟨h, ?_⟩, fun h => h.1⟩
      rintro rfl
      exact hempty h

/-- What is trimmed does not end in a blank. -/
lemma blank_of_trimmed {raw token : String} (h : trim raw = token.toList) {b : UInt8}
    (hb : (asBytes token).getLast? = some b) : blank b = false := by
  rw [← String.ofList_toList (s := token), ← h] at hb
  rcases List.eq_nil_or_concat (trim raw) with hnil | ⟨cs, c, hcs⟩
  · rw [hnil] at hb
    cases hb
  · have hlast : ¬ isWhitespace c := by
      have hne : trim raw ≠ [] := by simp [hcs]
      have hnot := List.rdropWhile_last_not isWhitespace (raw.toList.dropWhile isWhitespace) hne
      have hc : (trim raw).getLast hne = c := by simp [hcs]
      rwa [← hc]
    rw [hcs, List.concat_eq_append] at hb
    by_contra hblank
    have hvalue : b.toNat = 32 ∨ b.toNat = 9 := by
      simp only [blank, Bool.not_eq_false, Bool.or_eq_true, beq_iff_eq] at hblank
      rcases hblank with rfl | rfl
      · exact Or.inl rfl
      · exact Or.inr rfl
    rcases getLast_asBytes hb with hc | hlong
    · rw [hc] at hvalue
      refine hlast ?_
      rcases hvalue with hv | hv <;> simp [isWhitespace, hv]
    · omega

end Dumbarp.K8s
