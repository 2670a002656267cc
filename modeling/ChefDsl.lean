import ChefDsl.Main
import ChefDsl.Proofs.Acceptance
import ChefDsl.Proofs.AllOrNothing
import ChefDsl.Proofs.CleanText
import ChefDsl.Proofs.DirectPrinting
import ChefDsl.Proofs.FloatDrift
import ChefDsl.Proofs.Indentation
import ChefDsl.Proofs.Invocations
import ChefDsl.Proofs.KeyOrder
import ChefDsl.Proofs.LiteralRoundTrip
import ChefDsl.Proofs.Lossless
import ChefDsl.Proofs.RunListResolution
import ChefDsl.Proofs.WriterRuns
import ChefDsl.Proofs.Rearrangement
import ChefDsl.Proofs.RoleBuilding
import ChefDsl.Proofs.JsonConversion
import ChefDsl.Proofs.ChangeOrder
import ChefDsl.Proofs.FloatTokens
