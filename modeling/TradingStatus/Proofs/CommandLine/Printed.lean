import TradingStatus.CommandLine.Run
import TradingStatus.Proofs.Service.Shown
import TradingStatus.Proofs.Settings.Verification

/-! What a run prints, for those who have nothing else. A run that ends well after a receipt has
been asked for prints a document from which the receipt can be verified. -/

namespace TradingStatus

namespace CommandLine

variable {installation : Installation} {newId : Nat → Json} {clock : Option Timestamp}
  {arguments : Arguments} {exit : Exit}

/-- A run that ends well prints a success of the installation's service. -/
theorem exists_response_of_run [Platform]
    (hrun : (run installation newId clock arguments).value = .ok exit) (hcode : exit.code = 0) :
    ∃ setup kept response, (installation.deskSetup newId).value = (.ok setup, kept) ∧
      ((kept.desk clock).answer setup arguments.request).value.1 = .ok response ∧
      response.code = 200 ∧ exit.output = response.body.indented ++ "\n" := by
  unfold run at hrun
  rw [Logged.value_bind] at hrun
  generalize (installation.deskSetup newId).value = wired at hrun ⊢
  obtain ⟨failure | setup, kept⟩ := wired
  · simp only at hrun
    split at hrun
    · -- A run that does not start ends with another code.
      obtain rfl := Except.ok.inj hrun
      cases hcode
    · cases hrun
  · obtain ⟨response, hanswer, rfl⟩ := map_eq_ok_iff.mp hrun
    refine ⟨setup, kept, response, rfl, hanswer, ?_, rfl⟩
    by_contra hfailed
    simp [Exit.ofResponse, hfailed] at hcode

end CommandLine

/-- A receipt is verifiable as it is printed. If a run of the command line that asks for a receipt
ends well, what it prints is read as an object that shows a receipt of the installation's issuer:
taking the signature out of it leaves, byte for byte, what was signed for that receipt, and the
signature verifies under the public key of the signer. The same holds of every document that a
service answers a request for a receipt with, and it is read back from one line as well. -/
theorem printed_receipt_verifies [Platform] {scheme : SignatureScheme} (hsound : scheme.Sound) :
    (∀ (level : Except Failure LogLevel) (installation : Installation) (newId : Nat → Json)
        (clock : Option Timestamp) (arguments : CommandLine.Arguments) (exit : CommandLine.Exit),
      installation.scheme = scheme → arguments.request.search?.isSome = true →
      (CommandLine.runAt level installation newId clock arguments).value = .ok exit →
      exit.code = 0 →
      ∃ setup kept content tally receipt members,
        (installation.deskSetup newId).value = (.ok setup, kept) ∧
        ((kept.desk clock).issuer setup).Signs clock content tally receipt ∧
        Json.read exit.output = .ok (.obj members) ∧
        receipt.IsShownBy scheme setup.signer members) ∧
    ∀ (service : Service) (signer : Signer) (request : Request) (clock : Option Timestamp)
        (tally : Tally) (body : Json),
      (∀ n members signature, service.issuer.sign n members = .ok signature →
        signer.sign scheme members = .ok signature) →
      request.search?.isSome = true → service.answer request clock tally = .ok ⟨200, body⟩ →
      ∃ content tally receipt members, service.issuer.Signs clock content tally receipt ∧
        body = .obj members ∧ Json.read body.render = .ok (.obj members) ∧
        receipt.IsShownBy scheme signer members := by
  constructor
  · intro level installation newId clock arguments exit hscheme hsearch hrun hcode
    obtain ⟨⟨mic, tiers⟩, hsearch⟩ := Option.isSome_iff_exists.mp hsearch
    obtain ⟨setup, kept, ⟨code, body⟩, hsetup, hanswer, rfl, hprinted⟩ :=
      CommandLine.exists_response_of_run (Logged.value_of_heard hrun) hcode
    obtain ⟨-, -, hkept⟩ := Installation.exists_parts_of_deskSetup (congrArg Prod.fst hsetup)
    have hsign : ∀ n members signature, ((kept.desk clock).issuer setup).sign n members =
        .ok signature → setup.signer.sign scheme members = .ok signature := by
      intro n members signature h
      rw [← hscheme, ← hkept]
      exact Desk.sign_of_signNumbered h
    have hreceipt := Desk.answersReceipt_of_answer hsearch hanswer rfl
    obtain ⟨content, tally, receipt, members, hsigns, rfl, hshown, -, hread⟩ :=
      hreceipt.exists_shown hsound hsign
    exact ⟨setup, kept, content, tally, receipt, members, hsetup, hsigns, hprinted ▸ hread, hshown⟩
  · intro service signer request clock tally body hsign hsearch hanswer
    obtain ⟨⟨mic, tiers⟩, hsearch⟩ := Option.isSome_iff_exists.mp hsearch
    have hreceipt := Service.answersReceipt_of_answer hsearch hanswer rfl
    obtain ⟨content, spent, receipt, members, hsigns, rfl, hshown, hread, -⟩ :=
      hreceipt.exists_shown hsound hsign
    exact ⟨content, spent, receipt, members, hsigns, rfl, hread, hshown⟩

/-- An installation whose key has an identifier beyond ASCII prints a receipt, with an identifier
that has to be escaped, from which it is verified. -/
theorem printed_receipt_of_sample_verifies : ∃ exit members publicKey,
    (CommandLine.runAt (.ok .info) (.sample "clé 1" none) (fun _ => .str "\"\n\"")
      (some (.utc ⟨1774612800000000, by decide, by decide⟩)) ⟨some "xlon", none⟩).value = .ok exit ∧
    Json.read exit.output = .ok (.obj members) ∧
    (SignatureScheme.ed25519Of Installation.sampleSeed).verifyFields
      (members.filter fun member => member.1 != "signature") (Json.member members "signature")
      (.str publicKey) = true := by
  have hrun : (CommandLine.runAt (.ok .info) (.sample "clé 1" none) (fun _ => .str "\"\n\"")
      (some (.utc ⟨1774612800000000, by decide, by decide⟩))
      ⟨some "xlon", none⟩).value.toOption.map CommandLine.Exit.code = some 0 := by decide +kernel
  obtain ⟨exit, hexit, hcode⟩ := Option.map_eq_some_iff.mp hrun
  have hexit := toOption_eq_some_iff.mp hexit
  obtain ⟨setup, kept, content, tally, receipt, members, -, -, hread, hshown⟩ :=
    (printed_receipt_verifies (SignatureScheme.sound_ed25519Of Installation.sampleSeed)).1
      _ _ _ _ _ exit rfl rfl hexit hcode
  obtain ⟨publicKey, -, hverifies⟩ := hshown.verifies
  exact ⟨exit, members, publicKey, hexit, hread, hverifies⟩

end TradingStatus
