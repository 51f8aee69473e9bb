import StyleTree.Context.Environment
import StyleTree.Dialect
import StyleTree.Display
import StyleTree.Document.Fit
import StyleTree.Document.Nested
import StyleTree.Document.Part
import StyleTree.Document.Role
import StyleTree.Identifier
import StyleTree.Load
import StyleTree.MarkupTag
import StyleTree.Statement
import StyleTree.Tree.Navigation
import StyleTree.Tree.Rooted
import StyleTree.Tree.Unfolding
import StyleTree.Value.Class
import StyleTree.Proofs.Finish
import StyleTree.Proofs.Ancestry
import StyleTree.Proofs.Walking
import StyleTree.Proofs.Navigation
import StyleTree.Proofs.Descent
import StyleTree.Proofs.Nearest
import StyleTree.Proofs.Defects
import StyleTree.Proofs.Sweep
import StyleTree.Proofs.Unfolding
import StyleTree.Proofs.Layout
import StyleTree.Proofs.Loading
import StyleTree.Proofs.Agreement
import StyleTree.Proofs.Revision
import StyleTree.Proofs.Fit
import StyleTree.Proofs.Subtrees
import StyleTree.Proofs.Gap
import StyleTree.Proofs.Containment
import StyleTree.Proofs.Environment
import StyleTree.Proofs.MapEntry
import StyleTree.Proofs.Literals
import StyleTree.Proofs.Blocks
import StyleTree.Proofs.Lowercase
import StyleTree.Proofs.Normalizing
import StyleTree.Proofs.Signs
import StyleTree.Proofs.AsciiCase
import StyleTree.Proofs.KnownWords
import StyleTree.Proofs.LetterCase
import StyleTree.Proofs.ImportUrl
import StyleTree.Proofs.Sniffing
import StyleTree.Proofs.Extension
import StyleTree.Proofs.Comments
import StyleTree.Proofs.LessStatements
import StyleTree.Proofs.ValueClasses
