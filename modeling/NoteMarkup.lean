import NoteMarkup.Main
import NoteMarkup.Proofs.Page.Append
import NoteMarkup.Proofs.Page.HeadingText
import NoteMarkup.Proofs.Page.Images
import NoteMarkup.Proofs.Page.Interspersed
import NoteMarkup.Proofs.Page.Lists
import NoteMarkup.Proofs.Page.Lookups
import NoteMarkup.Proofs.Page.Options
import NoteMarkup.Proofs.Page.Script
import NoteMarkup.Proofs.Page.StoredSource
import NoteMarkup.Proofs.Page.Table
import NoteMarkup.Proofs.Page.Unrecognized
import NoteMarkup.Proofs.Scanner.Run
import NoteMarkup.Proofs.Summary
import NoteMarkup.Proofs.Text.Escaped
import NoteMarkup.Proofs.Title
import NoteMarkup.Proofs.Tree.Repair
import NoteMarkup.Proofs.Tree.Shape
import NoteMarkup.Summary
