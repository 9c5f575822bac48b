import RustHelper.TokenInstructionCodec

/-!
# The accounts of a token instruction

The comments on the instructions document which accounts each expects, which of
them sign and which are written.  The functions that build the instructions are
compared with these lists.
-/

namespace RustHelper.TokenInstruction

/-- A call of one of the functions that build an instruction. -/
inductive Call
  | initializeMint (mint : Pubkey) (account owner : Option Pubkey) (amount : UInt64)
      (decimals : UInt8)
  | initializeAccount (account mint owner : Pubkey)
  | initializeMultisig (multisig : Pubkey) (signers : List Pubkey) (m : UInt8)
  | transfer (source destination authority : Pubkey) (signers : List Pubkey) (amount : UInt64)
  | approve (source delegate owner : Pubkey) (signers : List Pubkey) (amount : UInt64)
  | revoke (source owner : Pubkey) (signers : List Pubkey)
  | setOwner (owned newOwner owner : Pubkey) (signers : List Pubkey)
  | mintTo (mint account owner : Pubkey) (signers : List Pubkey) (amount : UInt64)
  | burn (account authority : Pubkey) (signers : List Pubkey) (amount : UInt64)
  | closeAccount (account dest authority : Pubkey) (signers : List Pubkey)

namespace Call

/-- The function called. -/
def run (tokenProgramId : Pubkey) : Call → Except ProgramError Instruction
  | initializeMint mint account owner amount decimals =>
      initializeMintIx tokenProgramId mint account owner amount decimals
  | initializeAccount account mint owner => initializeAccountIx tokenProgramId account mint owner
  | initializeMultisig multisig signers m => initializeMultisigIx tokenProgramId multisig signers m
  | transfer source destination authority signers amount =>
      transferIx tokenProgramId source destination authority signers amount
  | approve source delegate owner signers amount =>
      approveIx tokenProgramId source delegate owner signers amount
  | revoke source owner signers => revokeIx tokenProgramId source owner signers
  | setOwner owned newOwner owner signers =>
      setOwnerIx tokenProgramId owned newOwner owner signers
  | mintTo mint account owner signers amount =>
      mintToIx tokenProgramId mint account owner signers amount
  | burn account authority signers amount => burnIx tokenProgramId account authority signers amount
  | closeAccount account dest authority signers =>
      closeAccountIx tokenProgramId account dest authority signers

/-- The instruction asked for. -/
def instruction : Call → TokenInstruction
  | initializeMint _ _ _ amount decimals => .initializeMint amount decimals
  | initializeAccount _ _ _ => .initializeAccount
  | initializeMultisig _ _ m => .initializeMultisig m
  | transfer _ _ _ _ amount => .transfer amount
  | approve _ _ _ _ amount => .approve amount
  | revoke _ _ _ => .revoke
  | setOwner _ _ _ _ => .setOwner
  | mintTo _ _ _ _ amount => .mintTo amount
  | burn _ _ _ amount => .burn amount
  | closeAccount _ _ _ _ => .closeAccount

/-- The authority as it is documented: it signs when it is a single one, and its
signers sign for it when it is a multisignature account. -/
def documentedAuthority (authority : Pubkey) (signers : List Pubkey) : List AccountMeta :=
  .newReadonly authority signers.isEmpty :: signers.map fun signer => .newReadonly signer true

/-- The accounts that the comment on the instruction lists. -/
def documented : Call → List AccountMeta
  | initializeMint mint account owner amount _ =>
      if amount = 0 then
        .new mint false :: owner.toList.map fun key => .newReadonly key false
      else
        .new mint false :: account.toList.map (fun key => .new key false) ++
          owner.toList.map fun key => .newReadonly key false
  | initializeAccount account mint owner =>
      [.new account false, .newReadonly mint false, .newReadonly owner false]
  | initializeMultisig multisig signers _ =>
      .new multisig false :: signers.map fun signer => .newReadonly signer false
  | transfer source destination authority signers _ =>
      [.new source false, .new destination false] ++ documentedAuthority authority signers
  | approve source delegate owner signers _ =>
      [.new source false, .newReadonly delegate false] ++ documentedAuthority owner signers
  | revoke source owner signers => .new source false :: documentedAuthority owner signers
  | setOwner owned newOwner owner signers =>
      [.new owned false, .newReadonly newOwner false] ++ documentedAuthority owner signers
  | mintTo mint account owner signers _ =>
      [.new mint false, .new account false] ++ documentedAuthority owner signers
  | burn account authority signers _ =>
      .new account false :: documentedAuthority authority signers
  | closeAccount account dest authority signers =>
      [.new account false, .new dest false] ++ documentedAuthority authority signers

/-- What the comments require of the arguments: a mint has an account for its
supply or else an owner, and a multisignature account has between one and eleven
signers, of which at least one and not more than there are must sign. -/
def Admissible : Call → Prop
  | initializeMint _ account owner amount _ =>
      if amount = 0 then owner.isSome else account.isSome
  | initializeMultisig _ signers m =>
      1 ≤ m.toNat ∧ m.toNat ≤ signers.length ∧ signers.length ≤ 11
  | _ => True

/-- The two instructions whose source account is not passed as writable. -/
def ReadsSource : Call → Prop
  | approve _ _ _ _ _ => True
  | revoke _ _ _ => True
  | _ => False

end Call

section Building

variable {tokenProgramId : Pubkey}

theorem build_eq (instruction : TokenInstruction) (accounts : List AccountMeta) :
    build tokenProgramId instruction accounts =
      .ok ⟨tokenProgramId, accounts, ByteFields.zeroFilled size instruction.wire⟩ := by
  rw [build, pack_eq]
  rfl

theorem isValidSignerIndex_iff (index : Nat) :
    isValidSignerIndex index = true ↔ 1 ≤ index ∧ index ≤ 11 := by
  have bounds : isValidSignerIndex index = true ↔ ¬ (index < 1 ∨ index > 11) := by
    simp [isValidSignerIndex, minSigners, maxSigners]
  rw [bounds]
  omega

/-- The accounts that are passed. -/
def Call.given : Call → List AccountMeta
  | transfer source destination authority signers _ =>
      withAuthority [.new source false, .new destination false] authority signers
  | approve source delegate owner signers _ =>
      withAuthority [.newReadonly source false, .new delegate false] owner signers
  | revoke source owner signers => withAuthority [.newReadonly source false] owner signers
  | setOwner owned newOwner owner signers =>
      withAuthority [.new owned false, .newReadonly newOwner false] owner signers
  | mintTo mint account owner signers _ =>
      withAuthority [.new mint false, .new account false] owner signers
  | burn account authority signers _ => withAuthority [.new account false] authority signers
  | closeAccount account dest authority signers =>
      withAuthority [.new account false, .new dest false] authority signers
  | call => call.documented

theorem initializeMint_run (mint : Pubkey) (account owner : Option Pubkey) (amount : UInt64)
    (decimals : UInt8) (result : Instruction) :
    initializeMintIx tokenProgramId mint account owner amount decimals = .ok result ↔
      (Call.initializeMint mint account owner amount decimals).Admissible ∧
        result = ⟨tokenProgramId,
          (Call.initializeMint mint account owner amount decimals).documented,
          ByteFields.zeroFilled size (initializeMint amount decimals).wire⟩ := by
  simp only [initializeMintIx, pack_eq, Call.Admissible, Call.documented]
  by_cases isZero : amount = 0
  · cases owner with
    | none => simp [isZero, bind, Except.bind]
    | some owner => simp [isZero, bind, Except.bind, eq_comm]
  · cases account with
    | none => simp [isZero, bind, Except.bind]
    | some account => cases owner <;> simp [isZero, bind, Except.bind, eq_comm]

theorem initializeMultisig_run (multisig : Pubkey) (signers : List Pubkey) (m : UInt8)
    (result : Instruction) :
    initializeMultisigIx tokenProgramId multisig signers m = .ok result ↔
      (Call.initializeMultisig multisig signers m).Admissible ∧
        result = ⟨tokenProgramId, (Call.initializeMultisig multisig signers m).documented,
          ByteFields.zeroFilled size (initializeMultisig m).wire⟩ := by
  have refused : (!isValidSignerIndex m.toNat || !isValidSignerIndex signers.length ||
      decide (m.toNat > signers.length)) = true ↔
      ¬ (Call.initializeMultisig multisig signers m).Admissible := by
    have first := isValidSignerIndex_iff m.toNat
    have second := isValidSignerIndex_iff signers.length
    simp only [Bool.or_eq_true, Bool.not_eq_true', ← Bool.not_eq_true, first, second,
      decide_eq_true_eq, Call.Admissible]
    omega
  unfold initializeMultisigIx
  by_cases admissible : (Call.initializeMultisig multisig signers m).Admissible
  · rw [if_neg (by rwa [refused, not_not]), build_eq]
    simp [admissible, Call.documented, eq_comm]
  · rw [if_pos (refused.mpr admissible)]
    simp [admissible]

/-- A call succeeds exactly with admissible arguments, and then with these accounts
and the packed instruction. -/
theorem Call.run_eq_ok_iff (call : Call) (result : Instruction) :
    call.run tokenProgramId = .ok result ↔
      call.Admissible ∧
        result =
          ⟨tokenProgramId, call.given, ByteFields.zeroFilled size call.instruction.wire⟩ := by
  have always : ∀ instruction accounts, build tokenProgramId instruction accounts = .ok result ↔
      True ∧ result = ⟨tokenProgramId, accounts, ByteFields.zeroFilled size instruction.wire⟩ := by
    intro instruction accounts
    rw [build_eq, Except.ok.injEq, true_and, eq_comm]
  cases call with
  | initializeMint mint account owner amount decimals =>
      exact initializeMint_run mint account owner amount decimals result
  | initializeMultisig multisig signers m => exact initializeMultisig_run multisig signers m result
  | _ => exact always _ _

end Building

section Documentation

/-- The same account, signing in both or in neither. -/
def SameRole (given documented : AccountMeta) : Prop :=
  given.pubkey = documented.pubkey ∧ given.isSigner = documented.isSigner

/-- The account may be written when it is documented to be written. -/
def Writes (given documented : AccountMeta) : Prop :=
  documented.isWritable = true → given.isWritable = true

variable {given documented : List AccountMeta} {authority : Pubkey} {signers : List Pubkey}

theorem sameRole_withAuthority (accounts : List.Forall₂ SameRole given documented) :
    List.Forall₂ SameRole (withAuthority given authority signers)
      (documented ++ Call.documentedAuthority authority signers) := by
  rw [withAuthority, List.append_assoc]
  apply List.rel_append accounts
  apply List.Forall₂.cons ⟨rfl, rfl⟩
  change List.Forall₂ SameRole (signers.map _) (signers.map _)
  rw [List.forall₂_map_left_iff, List.forall₂_map_right_iff]
  exact List.forall₂_same.mpr fun _ _ => ⟨rfl, rfl⟩

/-- Further signers are passed as writable accounts, more than is documented. -/
theorem writes_withAuthority (accounts : List.Forall₂ Writes given documented) :
    List.Forall₂ Writes (withAuthority given authority signers)
      (documented ++ Call.documentedAuthority authority signers) := by
  rw [withAuthority, List.append_assoc]
  apply List.rel_append accounts
  apply List.Forall₂.cons nofun
  change List.Forall₂ Writes (signers.map _) (signers.map _)
  rw [List.forall₂_map_left_iff, List.forall₂_map_right_iff]
  exact List.forall₂_same.mpr fun _ _ _ => rfl

theorem Call.sameRole (call : Call) : List.Forall₂ SameRole call.given call.documented := by
  have same : ∀ accounts : List AccountMeta, List.Forall₂ SameRole accounts accounts :=
    fun accounts => List.forall₂_same.mpr fun _ _ => ⟨rfl, rfl⟩
  cases call with
  | initializeMint mint account owner amount decimals => exact same _
  | initializeAccount account mint owner => exact same _
  | initializeMultisig multisig signers m => exact same _
  | transfer source destination authority signers amount => exact sameRole_withAuthority (same _)
  | approve source delegate owner signers amount =>
      exact sameRole_withAuthority (.cons ⟨rfl, rfl⟩ (.cons ⟨rfl, rfl⟩ .nil))
  | revoke source owner signers =>
      have accounts : List.Forall₂ SameRole [.newReadonly source false] [.new source false] :=
        .cons ⟨rfl, rfl⟩ .nil
      exact sameRole_withAuthority accounts
  | setOwner owned newOwner owner signers => exact sameRole_withAuthority (same _)
  | mintTo mint account owner signers amount => exact sameRole_withAuthority (same _)
  | burn account authority signers amount => exact sameRole_withAuthority (same [_])
  | closeAccount account dest authority signers => exact sameRole_withAuthority (same _)

/-- Approving and revoking ask for a read-only source, against their comments. -/
theorem Call.writes_iff (call : Call) :
    List.Forall₂ Writes call.given call.documented ↔ ¬ call.ReadsSource := by
  have same : ∀ accounts : List AccountMeta, List.Forall₂ Writes accounts accounts :=
    fun accounts => List.forall₂_same.mpr fun _ _ => id
  cases call with
  | initializeMint mint account owner amount decimals => exact iff_of_true (same _) id
  | initializeAccount account mint owner => exact iff_of_true (same _) id
  | initializeMultisig multisig signers m => exact iff_of_true (same _) id
  | transfer source destination authority signers amount =>
      exact iff_of_true (writes_withAuthority (same _)) id
  | approve source delegate owner signers amount =>
      apply iff_of_false _ (not_not_intro trivial)
      intro writes
      cases writes with
      | cons first rest => exact absurd (first rfl) Bool.false_ne_true
  | revoke source owner signers =>
      apply iff_of_false _ (not_not_intro trivial)
      intro writes
      cases writes with
      | cons first rest => exact absurd (first rfl) Bool.false_ne_true
  | setOwner owned newOwner owner signers => exact iff_of_true (writes_withAuthority (same _)) id
  | mintTo mint account owner signers amount =>
      exact iff_of_true (writes_withAuthority (same _)) id
  | burn account authority signers amount => exact iff_of_true (writes_withAuthority (same [_])) id
  | closeAccount account dest authority signers =>
      exact iff_of_true (writes_withAuthority (same _)) id

end Documentation

/-- Building a token instruction: it succeeds exactly for admissible arguments;
what is built reads back as the instruction asked for; its accounts are the
documented ones in the documented order, and exactly the documented ones sign;
and every account documented as written is passed as writable, except in
approving and revoking. -/
theorem Call.run_exact (tokenProgramId : Pubkey) (call : Call) :
    ((∃ result, call.run tokenProgramId = .ok result) ↔ call.Admissible) ∧
      ∀ result, call.run tokenProgramId = .ok result →
        result.programId = tokenProgramId ∧
        unpack result.data = .ok call.instruction ∧
        List.Forall₂ SameRole result.accounts call.documented ∧
        (List.Forall₂ Writes result.accounts call.documented ↔ ¬ call.ReadsSource) := by
  constructor
  · constructor
    · intro succeeds
      obtain ⟨result, isResult⟩ := succeeds
      exact ((call.run_eq_ok_iff result).mp isResult).1
    · intro admissible
      exact ⟨_, (call.run_eq_ok_iff _).mpr ⟨admissible, rfl⟩⟩
  · intro result isResult
    obtain ⟨-, rfl⟩ := (call.run_eq_ok_iff result).mp isResult
    exact ⟨rfl, unpack_wire call.instruction _, call.sameRole, call.writes_iff⟩

end RustHelper.TokenInstruction
