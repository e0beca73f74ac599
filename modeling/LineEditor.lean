import LineEditor.Main
import LineEditor.Proofs.Address.Arithmetic
import LineEditor.Proofs.Address.Fields
import LineEditor.Proofs.Address.Meaning
import LineEditor.Proofs.Address.Rest
import LineEditor.Proofs.Address.Whole
import LineEditor.Proofs.Buffer
import LineEditor.Proofs.Delimiter
import LineEditor.Proofs.Editor.Atomicity
import LineEditor.Proofs.Editor.Cursor
import LineEditor.Proofs.Editor.Filing
import LineEditor.Proofs.Editor.History
import LineEditor.Proofs.Editor.Listing
import LineEditor.Proofs.Editor.Opening
import LineEditor.Proofs.Editor.Output
import LineEditor.Proofs.Editor.Patterns
import LineEditor.Proofs.Editor.Reading
import LineEditor.Proofs.Editor.Repeating
import LineEditor.Proofs.Editor.Rewriting
import LineEditor.Proofs.Editor.Saving
import LineEditor.Proofs.Editor.Splice
import LineEditor.Proofs.Editor.Touring
import LineEditor.Proofs.Editor.Typing
import LineEditor.Proofs.Editor.Unbroken
import LineEditor.Proofs.Files
import LineEditor.Proofs.Overflow
import LineEditor.Proofs.Replacement
import LineEditor.Proofs.Session.Input
import LineEditor.Proofs.Session.Reload
import LineEditor.Proofs.Substitution.Delimiter
import LineEditor.Proofs.Substitution.Expansion
import LineEditor.Proofs.Substitution.Scanning
import LineEditor.Proofs.Substitution.Writing
import LineEditor.Proofs.Text.Decoding
import LineEditor.Proofs.Text.Lines
import LineEditor.Proofs.Text.Normal
import LineEditor.Proofs.Text.Utf8
