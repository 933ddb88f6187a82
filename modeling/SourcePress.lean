import SourcePress.Config.Reader
import SourcePress.SourceFile
import SourcePress.Proofs.FreshToken
import SourcePress.Proofs.RegistryRun
import SourcePress.Proofs.Naming
import SourcePress.Proofs.Substitution
import SourcePress.Proofs.WriterRun
import SourcePress.Proofs.Page
import SourcePress.Proofs.ImportTable
import SourcePress.Proofs.LayoutAgreement
import SourcePress.Proofs.FileText
import SourcePress.Proofs.FailedWriting
import SourcePress.Proofs.Collection
import SourcePress.Proofs.TemplateLanguage
import SourcePress.Proofs.DeclarationImports
import SourcePress.Proofs.Separation
import SourcePress.Proofs.Joining
import SourcePress.Proofs.Balance
import SourcePress.Proofs.SuppliedLines
import SourcePress.Proofs.FileAssembly
import SourcePress.Proofs.Reordering
import SourcePress.Proofs.TokenCharacters
import SourcePress.Proofs.UniqueReading
import SourcePress.Proofs.ImportUnion
import SourcePress.Proofs.Signatures
import SourcePress.Proofs.BlockTree
import SourcePress.Proofs.DirectiveCount
import SourcePress.Proofs.Attachment
import SourcePress.Proofs.Grouping
import SourcePress.Proofs.CommentLines
import SourcePress.Proofs.TokenNormalForm
import SourcePress.Proofs.TokenSearch
import SourcePress.Proofs.Receivers
