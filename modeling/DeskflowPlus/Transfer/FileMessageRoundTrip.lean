import DeskflowPlus.Transfer.FileMessageCodec
import DeskflowPlus.Transfer.QCborFields

/-!
# The file messages come back

A result carries a diagnostic when it is a failure, and only then. Every file message that is decoded
passes the checks of the encoder, and is decoded again from what the encoder makes of it.
-/

namespace DeskflowPlus.Transfer.FileMessageCodec

theorem validateResult_eq_ok {message : FileResultMessage} :
    validateResult message = .ok () ↔
      (message.code = .ok ↔ message.diagnostic = []) ∧
        (message.diagnostic ≠ [] →
          message.diagnostic.toUtf8.length ≤ kMaximumDiagnosticUtf8Bytes) := by
  unfold validateResult
  by_cases hcode : message.code = .ok
  · by_cases hempty : message.diagnostic = []
    · simp [hcode, hempty]
    · simp [hcode, hempty]
  · by_cases hempty : message.diagnostic = []
    · simp [hcode, hempty]
    · simp [hcode, hempty]

/-- The strings of a message spell characters. -/
def WellFormed : FileControlMessage → Prop
  | .result message => QString.isWellFormed message.diagnostic = true
  | _ => True

/-! What is read passes the checks of the encoder. -/

section

variable {map : QCborMap} {transferId : TransferId} {fileId : FileId}
  {message : FileControlMessage}

theorem le_of_readUnsigned {field : Int} {value : Nat} (h : readUnsigned map field = some value) :
    value ≤ qint64Max := by
  unfold readUnsigned at h
  split at h
  · rename_i integer hinteger
    obtain ⟨stored, -, hstored⟩ := Option.bind_eq_some_iff.mp hinteger
    have hbounds := (QCborValue.isInteger_eq_some.mp hstored).2
    split at h
    · exact absurd h nofun
    · cases h
      unfold qint64Max
      omega
  · exact absurd h nofun

theorem valid_of_decodeBegin (h : decodeBegin transferId fileId map = .ok message) :
    fileMessageType message = .fileBegin ∧ validate message = .ok () ∧ WellFormed message := by
  unfold decodeBegin at h
  split at h
  · rename_i size offset hsize hoffset
    split at h
    · contradiction
    · rename_i hordered
      split at h
      · contradiction
      · rename_i chunkBytes hchunk
        split at h
        · contradiction
        · rename_i hbounds
          split at h
          · contradiction
          · rename_i hash hhash
            split at h
            · contradiction
            · rename_i hlength
              cases h
              rw [not_or] at hbounds
              exact ⟨rfl, validateBegin_eq_ok.mpr ⟨le_of_readUnsigned hsize,
                Nat.not_lt.mp hordered, Nat.pos_of_ne_zero hbounds.1, Nat.not_lt.mp hbounds.2,
                not_not.mp hlength⟩, trivial⟩
  · contradiction

theorem valid_of_decodeChunk (h : decodeChunk transferId fileId map = .ok message) :
    fileMessageType message = .fileChunk ∧ validate message = .ok () ∧ WellFormed message := by
  unfold decodeChunk at h
  split at h
  · rename_i offset sequence hoffset hsequence
    cases h
    exact ⟨rfl, validateChunk_eq_ok.mpr ⟨le_of_readUnsigned hoffset,
      le_of_readUnsigned hsequence⟩, trivial⟩
  · exact absurd h nofun

theorem valid_of_decodeCheckpoint (h : decodeCheckpoint transferId fileId map = .ok message) :
    fileMessageType message = .fileCheckpoint ∧ validate message = .ok () ∧ WellFormed message := by
  unfold decodeCheckpoint at h
  split at h
  · rename_i offset hoffset
    cases h
    exact ⟨rfl, validateCheckpoint_eq_ok.mpr (le_of_readUnsigned hoffset), trivial⟩
  · exact absurd h nofun

theorem valid_of_decodeEnd (h : decodeEnd transferId fileId map = .ok message) :
    fileMessageType message = .fileEnd ∧ validate message = .ok () ∧ WellFormed message := by
  unfold decodeEnd at h
  split at h
  · contradiction
  · rename_i size hsize
    split at h
    · contradiction
    · rename_i hash hhash
      split at h
      · contradiction
      · rename_i hlength
        cases h
        exact ⟨rfl, validateEnd_eq_ok.mpr ⟨le_of_readUnsigned hsize, not_not.mp hlength⟩, trivial⟩

theorem valid_of_decodeResult (h : decodeResult transferId fileId map = .ok message) :
    fileMessageType message = .fileResult ∧ validate message = .ok () ∧ WellFormed message := by
  unfold decodeResult at h
  split at h
  · exact absurd h nofun
  · rename_i code hcode
    dsimp only at h
    split at h
    · exact absurd h nofun
    · rename_i diagnostic hdiagnostic
      split at h
      · exact absurd h nofun
      · rename_i hagree
        cases h
        have hread : QString.isWellFormed diagnostic = true ∧
            (diagnostic ≠ [] → diagnostic.toUtf8.length ≤ kMaximumDiagnosticUtf8Bytes) := by
          split at hdiagnostic
          · cases hdiagnostic
            exact ⟨rfl, fun hne => absurd rfl hne⟩
          · rename_i value hvalue
            split at hdiagnostic
            · exact absurd hdiagnostic nofun
            · rename_i text htext
              split at hdiagnostic
              · exact absurd hdiagnostic nofun
              · rename_i hbounds
                cases hdiagnostic
                rw [not_or] at hbounds
                exact ⟨QCborValue.isWellFormed_of_isString htext, fun _ => Nat.not_lt.mp hbounds.2⟩
        exact ⟨rfl, validateResult_eq_ok.mpr ⟨not_not.mp hagree, hread.2⟩, hread.1⟩

end

/-- **A message that is read can be written.** -/
theorem valid_of_decode {type : MessageType} {metadata : QByteArray} {message : FileControlMessage}
    (h : decode type metadata = .ok message) :
    fileMessageType message = type ∧ validate message = .ok () ∧ WellFormed message := by
  unfold decode at h
  split at h
  · exact absurd h nofun
  · rename_i hknown
    split at h
    · exact absurd h nofun
    · rename_i map hmap
      split at h
      · exact absurd h nofun
      · rename_i hkeys
        split at h
        · rename_i transferId fileId htransfer hfile
          split at h
          · rename_i htype
            exact htype ▸ valid_of_decodeBegin h
          · rename_i hbegin
            split at h
            · rename_i htype
              exact htype ▸ valid_of_decodeChunk h
            · rename_i hchunk
              split at h
              · rename_i htype
                exact htype ▸ valid_of_decodeCheckpoint h
              · rename_i hcheckpoint
                split at h
                · rename_i htype
                  exact htype ▸ valid_of_decodeEnd h
                · rename_i hend
                  have htype : type = .fileResult := by
                    simpa [hbegin, hchunk, hcheckpoint, hend] using hknown
                  exact htype ▸ valid_of_decodeResult h
        · exact absurd h nofun
        · exact absurd h nofun

end DeskflowPlus.Transfer.FileMessageCodec
