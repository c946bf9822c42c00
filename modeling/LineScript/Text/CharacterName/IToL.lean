/-! The names of characters that begin with a letter from I to L. -/

namespace LineScript.Text

/-- The names that begin with the letters I to L, packed. -/
def namesIToL : String :=
  "aI LOVE YOU HAND SIGNbCE CREAMfUBEeHOCKEY STICK AND PUCKeSKATEbDENTICAL TOm AND SLANTED PARALLEL
kWITH DOT ABOVEgFICATION CARDdOGRAPHIC ANNOTATION BOTTOM MARKxEARTH MARKxFIRST MARKyOUR MARKzURTH MARK
xHEAVEN MARKxLINKING MARKxMAN MARKyIDDLE MARKxONE MARKxREVERSE MARKxSECOND MARKxTHIRD MARKzREE MARKyOP MARK
yWO MARKmCLOSING MARKnOMMAmDEPARTING TONE MARKoSCRIPTION CHARACTER ABOVE TO BELOW
zHARACTER ABOVE TO MIDDLE AND BELOWzHARACTER FULL SURROUNDzHARACTER LEFT TO MIDDLE AND RIGHT
zHARACTER LEFT TO RIGHTzHARACTER OVERLAIDzHARACTER SURROUND FROM ABOVEzHARACTER SURROUND FROM BELOW
zHARACTER SURROUND FROM LEFTzHARACTER SURROUND FROM LOWER LEFTzHARACTER SURROUND FROM UPPER LEFT
zHARACTER SURROUND FROM UPPER RIGHTmENTERING TONE MARKmFULL STOPmHALF FILL SPACEmITERATION MARK
mLEVEL TONE MARKmNUMBER ZEROmRISING TONE MARKmSPACEmTALLY MARK FIVEyOURxONExTHREEyWO
nELEGRAPH LINE FEED SEPARATOR SYMBOLwSYMBOL FOR APRILzBOL FOR AUGUSTzBOL FOR DAY EIGHTzBOL FOR DAY EIGHTEEN
zBOL FOR DAY ELEVENzBOL FOR DAY FIFTEENzBOL FOR DAY FIVEzBOL FOR DAY FOURzBOL FOR DAY FOURTEEN
zBOL FOR DAY NINEzBOL FOR DAY NINETEENzBOL FOR DAY ONEzBOL FOR DAY SEVENzBOL FOR DAY SEVENTEEN
zBOL FOR DAY SIXzBOL FOR DAY SIXTEENzBOL FOR DAY TENzBOL FOR DAY THIRTEENzBOL FOR DAY THIRTY
zBOL FOR DAY THIRTY-ONEzBOL FOR DAY THREEzBOL FOR DAY TWELVEzBOL FOR DAY TWENTYzBOL FOR DAY TWENTY-EIGHT
zBOL FOR DAY TWENTY-FIVEzBOL FOR DAY TWENTY-FOURzBOL FOR DAY TWENTY-NINEzBOL FOR DAY TWENTY-ONE
zBOL FOR DAY TWENTY-SEVENzBOL FOR DAY TWENTY-SIXzBOL FOR DAY TWENTY-THREEzBOL FOR DAY TWENTY-TWO
zBOL FOR DAY TWOzBOL FOR DECEMBERzBOL FOR FEBRUARYzBOL FOR HOUR EIGHTzBOL FOR HOUR EIGHTEEN
zBOL FOR HOUR ELEVENzBOL FOR HOUR FIFTEENzBOL FOR HOUR FIVEzBOL FOR HOUR FOURzBOL FOR HOUR FOURTEEN
zBOL FOR HOUR NINEzBOL FOR HOUR NINETEENzBOL FOR HOUR ONEzBOL FOR HOUR SEVENzBOL FOR HOUR SEVENTEEN
zBOL FOR HOUR SIXzBOL FOR HOUR SIXTEENzBOL FOR HOUR TENzBOL FOR HOUR THIRTEENzBOL FOR HOUR THREE
zBOL FOR HOUR TWELVEzBOL FOR HOUR TWENTYzBOL FOR HOUR TWENTY-FOURzBOL FOR HOUR TWENTY-ONE
zBOL FOR HOUR TWENTY-THREEzBOL FOR HOUR TWENTY-TWOzBOL FOR HOUR TWOzBOL FOR HOUR ZEROzBOL FOR JANUARY
zBOL FOR JULYzBOL FOR JUNEzBOL FOR MARCHzBOL FOR MAYzBOL FOR NOVEMBERzBOL FOR OCTOBERzBOL FOR SEPTEMBER
mVARIATION INDICATORbMAGE OFi OR APPROXIMATELY EQUAL TOcPdERIAL ARAMAIC LETTER ALEPHzYINyBETHyDALETHyGIMEL
yHEzETHyKAPHyLAMEDHyMEMyNUNyPEyQOPHyRESHySADHEzAMEKHzHINyTAWzETHyWAWyYODHyZAYINrNUMBER ONEzNE HUNDRED
zNE THOUSANDyTENzEN THOUSANDzHREEzWENTYzWOrSECTION SIGNbNBOX TRAYcCOMING ENVELOPEfPLETE INFINITY
dREASE FONT SIZE SYMBOLiS ASfMENTcDdEXf POINTING AT THE VIEWERdIAN RUPEE SIGNeC SIYAQ ALTERNATE LAKH MARK
mFRACTION ONE HALFzQUARTERvTHREE QUARTERSmLAKH MARKmNUMBER ALTERNATE ONEzATE TEN THOUSANDzATE TWOtEIGHT
y HUNDREDzTHOUSANDyYz THOUSANDtFIFTYy THOUSANDvVEx HUNDREDyTHOUSANDuORTYy THOUSANDvURx HUNDREDyTHOUSAND
tKARORyANtLAKHxANtNINEx HUNDREDyTHOUSANDxTYz THOUSANDtONEw HUNDREDxTHOUSANDtPREFIXED EIGHTzED FIVEzED FOUR
zED NINEzED ONEzED SEVENzED SIXzED THREEzED TWOtSEVENy HUNDREDzTHOUSANDyTYzY THOUSANDuIXw HUNDREDxTHOUSAND
wTYy THOUSANDtTENw THOUSANDuHIRTYz THOUSANDvREEy HUNDREDzTHOUSANDuWENTYz THOUSANDvOw HUNDREDxTHOUSAND
mPLACEHOLDERmRUPEE MARKcFINITYi NEGATED WITH VERTICAL BARdORMATION DESK PERSONmSEPARATOR FOURwONEwTHREExWO
nOURCEcHIBIT ARABIC FORM SHAPINGiSYMMETRIC SWAPPINGcPUT SYMBOL FOR LATIN CAPITAL LETTERSxLETTERS
xSMALL LETTERSrNUMBERSrSYMBOLScSCRIPTIONAL PAHLAVI LETTER ALEPHzTER BETHzTER DALETHzTER GIMELzTER HE
zTER HETHzTER KAPHzTER LAMEDHzTER MEM-QOPHzTER NUNzTER PEzTER SADHEzTER SAMEKHzTER SHINzTER TAWzTER TETH
zTER WAW-AYIN-RESHzTER YODHzTER ZAYINwNUMBER FOURzBER ONEzBER ONE HUNDREDzBER ONE THOUSANDzBER TENzBER THREE
zBER TWENTYzBER TWOqRTHIAN LETTER ALEPHzTTER AYINzTTER BETHzTTER DALETHzTTER GIMELzTTER HEzTTER HETH
zTTER KAPHzTTER LAMEDHzTTER MEMzTTER NUNzTTER PEzTTER QOPHzTTER RESHzTTER SADHEzTTER SAMEKHzTTER SHIN
zTTER TAWzTTER TETHzTTER WAWzTTER YODHzTTER ZAYINxNUMBER FOURzMBER ONEzMBER ONE HUNDREDzMBER ONE THOUSAND
zMBER TENzMBER THREEzMBER TWENTYzMBER TWOdERTION SYMBOLcTEGRALi AROUND A POINT OPERATORkVERAGE WITH SLASH
jEXTENSIONjWITH DOUBLE STROKEoINTERSECTIONoLEFTWARDS ARROW WITH HOOKoOVERBARoTIMES SIGNoUNDERBARqIONeRCALATE
fIOR PRODUCTfLINEAR ANNOTATION ANCHORxSEPARATORxTERMINATORgOCKED FEMALE AND MALE SIGNfROBANGfSECTION
m ABOVE BAR ABOVE UNIONtUNIONnBESIDE AND JOINED WITH INTERSECTIONnWITH DOTsLOGICAL ANDsOVERBARcVERSE BULLET
iCHECK MARKnER BOARD FILLiDOWNWARDS ARROW WITH TIP LEFTWARDSiMEDIUM SHADEiWHITE CIRCLEfTED EXCLAMATION MARK
jINTERROBANGjLAZY SkOW KAVYKAt WITH KAVYKA ABOVEjOHM SIGNjPENTAGRAMjQUESTION MARKjUNDERTIEdISIBLE PLUS
kSEPARATORkTIMESbZAKAYA LANTERNaJACK-O-LANTERNcPANESE BANK SYMBOLjCASTLEjDOLLSjGOBLIN
jINDUSTRIAL STANDARD SYMBOLjOGREjPOST OFFICEjSYMBOL FOR BEGINNERcRcVANESE CONSONANT SIGN CAKRAyKERETyPENGKAL
jDIGIT EIGHTpFIVEqOURpNINEpONEpSEVENqIXpTHREEqWOpZEROjLEFT RERENGGANlTTER ArIqBAs MURDAqCAs MURDAqDA
s MAHAPRANArDAt MAHAPRANAqEqGAs MURDAqHAqIr KAWIrIqJAs MAHAPRANAqKAs MURDAtSASAKqLAqMAqNAs MURDArGAt LELET
z RASWADIrYAt MURDAqOqPAs CEREKtMURDAqRAs AGUNGqSAs MAHAPRANAuURDAqTAs MURDArTAt MAHAPRANAqUqWAqYAjPADA ADEG
s ADEGpNDAPoISEN-ISENoLINGSApUHURqNGSIoMADYAoPANGKATpISELEHoTIRTA TUMETESoWINDUlNGKONnRANGKEP
jRIGHT RERENGGANjSIGN CECAKt TELUoLAYARoPANYANGGAoWIGNYANjTURNED PADA PISELEHjVOWEL SIGN DIRGA MUREuPEPET
uSUKUy MENDUTuTALINGwRUNGvOLONGuWULUy MELIKbEANSbIGSAW PUZZLE PIECEbOINcYSTICKbUGGLINGcNOcPITERaKAABA
cITHI ABBREVIATION SIGNhDANDAiOUBLE DANDAoSECTION MARKhENUMERATION SIGNhLETTER ApApIpUoBApHAoCApHAoDApDAqDHA
qHApHAoEoGApHAoHAoIpIoJApHAoKApHAoLAoMAoNApGApNApYAoOoPApHAoRApHAoSApHApSAoTApHApTAqHAoUpUoVAoYAhNUMBER SIGN
s ABOVEhSECTION MARKiIGN ANUSVARAmCANDRABINDUmNUKTAmVIRAMAoSARGAhVOWEL SIGN AAtItUsEsItIsOsUtUsVOCALIC R
cNGAROOeXI RADICAL AGAINqNDqRRIVEsOWqXEpBADGERrMBOOqEANqIGrRDrTTERqLACKrOODrUEqOATrDYrLT OF CLOTHrNErWqRANCH
rISTLErUSHpCARTrULDRONrVEqHILDqITYqLANsWrIFFrOTHESqOLORrMPARErRPSErVERrWpDEATHrERqIPPERrSHsTINGUISHrVINATION
qO NOTrGrORrTsTED CLIFFwTENTrUBLE XrWN BOXqRAGONrUMrYpEARsTHrTqIGHTqMBROIDERYqNCLOSURErTERqVENtINGqYEpFACE
rNGrTHERqEATHERqIELDrGHTrRErSHqLUTErYqOOTqRAGRANTrOGqURpGATEqHOSTqOr SLOWLYrLDqRAINsSSpHAIRrLBERD
sF TREE TRUNKrNDqEADsRTrMPqIDING ENCLOSUREqOOKrRNsSEpICEqNCHrSECTpJADErRpKNIFEpLACKrMEqEAFsTHERrEKrGSqIDrFE
rNEqONGt STRIDEpMANqEATrLONqILLETrNISTERqOONrRNINGsTARrUNDtTAINsTHpNETqOSErTpOLDqNEsSELFqPEN BOXrPOSEpPIG
qLOWqOWERqRIVATErOFOUNDpRAINrPrTqEDqICErGHT OPEN BOXrVERqOOFqUNpSACRIFICIAL WINErLTrYqCHOLARrRIPTqEALrCONDrE
rLFqHEEPsLLrOOTsRT TAILED BIRDwHREADqICKNESSrLKqKINqLASHsVErICEqMALLqNOUTqOUNDqPEARsECHrIRITrOONrROUTqQUARE
qTANDrEAMsPrONEsPtPINGqUNqWEETpTABLErLLrNNED LEATHERqENqIGERrLEqONGUErOTHqRACKrEErIPODqURBANsTLEqWOs HANDS
pUSEpVALLEYqILLAGEpWALKt ENCLOSURErTERqEAPONrSTqHEATrITEqINDsEqOMANrRKqRAPrONGpYELLOWdNADA AI LENGTH MARK
iDIGIT EIGHToFIVEpOURoNINEoONEoSEVENpIXoTHREEpWOoZEROiLENGTH MARKkTTER AqAqIqUpBAqHApCAqHApDAqDArHAqHApEqE
pFApGAqHApHApIqIpJAqHApKAqHApLAqLArLApMApNArKAARA POLLUqGAqNAqYApOqOpPAqHApRAqRApSAqHAqSApTAqHAqTArHApUqUpVA
qOCALIC LyLxRyRpYAiSIGN ANUSVARAoVAGRAHAnCANDRABINDUnJIHVAMULIYAnNUKTAnSIDDHAMoPACING CANDRABINDU
nUPADHMANIYAnVIRAMApSARGAiVOWEL SIGN AAuIuUtEuEtIuItOuOtUuUtVOCALIC LzC LLzC RzC RRcTAKANA DIGRAPH KOTO
jITERATION MARKjLETTER ArRCHAIC EyWUyYEzIqBArErIrOrUqDArErIrOrUqEqGArErIrOrUqHArErIrOrUqIqKArErIrOrUqMArErI
sNNAN NASALIZED TONE-1zSALIZED TONE-2zSALIZED TONE-3zSALIZED TONE-4zSALIZED TONE-5zSALIZED TONE-7
zSALIZED TONE-8xTONE-2zNE-3zNE-4zNE-5zNE-7zNE-8rOrUqNrArErIrOrUqOqPArErIrOrUqRArErIrOrUqSArErIrMALL AwEwHAxE
xIxOxUwIwKAxExUwMUwNxUwOwRAxExIxOxUwSIxUwTOxUwUwWAxExIxOwYAxOxUrOrUqTArErIrOrUqUqVArErIrOrUqWArErIrOqYArOrU
qZArErIrOrUjMIDDLE DOTjVOICED ITERATION MARKi-HIRAGANA DOUBLE HYPHENsPROLONGED SOUND MARK
sSEMI-VOICED SOUND MARKsVOICED SOUND MARKcYAH LI DIGIT EIGHTpFIVEqOURpNINEpONEpSEVENqIXpTHREEqWOpZERO
jLETTER AqBAqCAqDAqGAqHArTAqIqKArHAqLAqMAqNArGArYAqOErOqPArHAqRAqSArHAqTArHAqVAqWAqYAqZAjSIGN CWIoSHYA
jTONE CALYAt PLOPHUoPLOPHUjVOWEL EqEpOpUqEbELVIN SIGNcYdBOARDi AND MOUSEdCAP TENbHAROSHTHI DIGIT FOURrONE
rTHREEsWOlFRACTION ONE HALFlLETTER AsBAtHAsCAtHAsDAtDAuHAtHAsGAtHAsHAsJAsKAtHAtKAsLAsMAsNAtNAtYAsPAtHAsRAsSA
tHAtSAsTAtHAtTAuHAuTAvHAsVAtHAsYAsZAlNUMBER ONE HUNDREDwTHOUSANDsTENtWENTYlPUNCTUATION CIRCLEyRESCENT BAR
xDANDAyOTzUBLE DANDAxLINESyOTUSxMANGALAMxSMALL CIRCLElSIGN ANUSVARAqBAR ABOVEqCAUDAqDOT BELOW
sUBLE RING BELOWqVISARGAlVIRAMAmOWEL LENGTH MARKrSIGN EwIwOwUwVOCALIC RcITAN SMALL SCRIPT CHARACTER-18B00
zCTER-18B01zCTER-18B02zCTER-18B03zCTER-18B04zCTER-18B05zCTER-18B06zCTER-18B07zCTER-18B08zCTER-18B09
zCTER-18B0AzCTER-18B0BzCTER-18B0CzCTER-18B0DzCTER-18B0EzCTER-18B0FzCTER-18B10zCTER-18B11zCTER-18B12
zCTER-18B13zCTER-18B14zCTER-18B15zCTER-18B16zCTER-18B17zCTER-18B18zCTER-18B19zCTER-18B1AzCTER-18B1B
zCTER-18B1CzCTER-18B1DzCTER-18B1EzCTER-18B1FzCTER-18B20zCTER-18B21zCTER-18B22zCTER-18B23zCTER-18B24
zCTER-18B25zCTER-18B26zCTER-18B27zCTER-18B28zCTER-18B29zCTER-18B2AzCTER-18B2BzCTER-18B2CzCTER-18B2D
zCTER-18B2EzCTER-18B2FzCTER-18B30zCTER-18B31zCTER-18B32zCTER-18B33zCTER-18B34zCTER-18B35zCTER-18B36
zCTER-18B37zCTER-18B38zCTER-18B39zCTER-18B3AzCTER-18B3BzCTER-18B3CzCTER-18B3DzCTER-18B3EzCTER-18B3F
zCTER-18B40zCTER-18B41zCTER-18B42zCTER-18B43zCTER-18B44zCTER-18B45zCTER-18B46zCTER-18B47zCTER-18B48
zCTER-18B49zCTER-18B4AzCTER-18B4BzCTER-18B4CzCTER-18B4DzCTER-18B4EzCTER-18B4FzCTER-18B50zCTER-18B51
zCTER-18B52zCTER-18B53zCTER-18B54zCTER-18B55zCTER-18B56zCTER-18B57zCTER-18B58zCTER-18B59zCTER-18B5A
zCTER-18B5BzCTER-18B5CzCTER-18B5DzCTER-18B5EzCTER-18B5FzCTER-18B60zCTER-18B61zCTER-18B62zCTER-18B63
zCTER-18B64zCTER-18B65zCTER-18B66zCTER-18B67zCTER-18B68zCTER-18B69zCTER-18B6AzCTER-18B6BzCTER-18B6C
zCTER-18B6DzCTER-18B6EzCTER-18B6FzCTER-18B70zCTER-18B71zCTER-18B72zCTER-18B73zCTER-18B74zCTER-18B75
zCTER-18B76zCTER-18B77zCTER-18B78zCTER-18B79zCTER-18B7AzCTER-18B7BzCTER-18B7CzCTER-18B7DzCTER-18B7E
zCTER-18B7FzCTER-18B80zCTER-18B81zCTER-18B82zCTER-18B83zCTER-18B84zCTER-18B85zCTER-18B86zCTER-18B87
zCTER-18B88zCTER-18B89zCTER-18B8AzCTER-18B8BzCTER-18B8CzCTER-18B8DzCTER-18B8EzCTER-18B8FzCTER-18B90
zCTER-18B91zCTER-18B92zCTER-18B93zCTER-18B94zCTER-18B95zCTER-18B96zCTER-18B97zCTER-18B98zCTER-18B99
zCTER-18B9AzCTER-18B9BzCTER-18B9CzCTER-18B9DzCTER-18B9EzCTER-18B9FzCTER-18BA0zCTER-18BA1zCTER-18BA2
zCTER-18BA3zCTER-18BA4zCTER-18BA5zCTER-18BA6zCTER-18BA7zCTER-18BA8zCTER-18BA9zCTER-18BAAzCTER-18BAB
zCTER-18BACzCTER-18BADzCTER-18BAEzCTER-18BAFzCTER-18BB0zCTER-18BB1zCTER-18BB2zCTER-18BB3zCTER-18BB4
zCTER-18BB5zCTER-18BB6zCTER-18BB7zCTER-18BB8zCTER-18BB9zCTER-18BBAzCTER-18BBBzCTER-18BBCzCTER-18BBD
zCTER-18BBEzCTER-18BBFzCTER-18BC0zCTER-18BC1zCTER-18BC2zCTER-18BC3zCTER-18BC4zCTER-18BC5zCTER-18BC6
zCTER-18BC7zCTER-18BC8zCTER-18BC9zCTER-18BCAzCTER-18BCBzCTER-18BCCzCTER-18BCDzCTER-18BCEzCTER-18BCF
zCTER-18BD0zCTER-18BD1zCTER-18BD2zCTER-18BD3zCTER-18BD4zCTER-18BD5zCTER-18BD6zCTER-18BD7zCTER-18BD8
zCTER-18BD9zCTER-18BDAzCTER-18BDBzCTER-18BDCzCTER-18BDDzCTER-18BDEzCTER-18BDFzCTER-18BE0zCTER-18BE1
zCTER-18BE2zCTER-18BE3zCTER-18BE4zCTER-18BE5zCTER-18BE6zCTER-18BE7zCTER-18BE8zCTER-18BE9zCTER-18BEA
zCTER-18BEBzCTER-18BECzCTER-18BEDzCTER-18BEEzCTER-18BEFzCTER-18BF0zCTER-18BF1zCTER-18BF2zCTER-18BF3
zCTER-18BF4zCTER-18BF5zCTER-18BF6zCTER-18BF7zCTER-18BF8zCTER-18BF9zCTER-18BFAzCTER-18BFBzCTER-18BFC
zCTER-18BFDzCTER-18BFEzCTER-18BFFzCTER-18C00zCTER-18C01zCTER-18C02zCTER-18C03zCTER-18C04zCTER-18C05
zCTER-18C06zCTER-18C07zCTER-18C08zCTER-18C09zCTER-18C0AzCTER-18C0BzCTER-18C0CzCTER-18C0DzCTER-18C0E
zCTER-18C0FzCTER-18C10zCTER-18C11zCTER-18C12zCTER-18C13zCTER-18C14zCTER-18C15zCTER-18C16zCTER-18C17
zCTER-18C18zCTER-18C19zCTER-18C1AzCTER-18C1BzCTER-18C1CzCTER-18C1DzCTER-18C1EzCTER-18C1FzCTER-18C20
zCTER-18C21zCTER-18C22zCTER-18C23zCTER-18C24zCTER-18C25zCTER-18C26zCTER-18C27zCTER-18C28zCTER-18C29
zCTER-18C2AzCTER-18C2BzCTER-18C2CzCTER-18C2DzCTER-18C2EzCTER-18C2FzCTER-18C30zCTER-18C31zCTER-18C32
zCTER-18C33zCTER-18C34zCTER-18C35zCTER-18C36zCTER-18C37zCTER-18C38zCTER-18C39zCTER-18C3AzCTER-18C3B
zCTER-18C3CzCTER-18C3DzCTER-18C3EzCTER-18C3FzCTER-18C40zCTER-18C41zCTER-18C42zCTER-18C43zCTER-18C44
zCTER-18C45zCTER-18C46zCTER-18C47zCTER-18C48zCTER-18C49zCTER-18C4AzCTER-18C4BzCTER-18C4CzCTER-18C4D
zCTER-18C4EzCTER-18C4FzCTER-18C50zCTER-18C51zCTER-18C52zCTER-18C53zCTER-18C54zCTER-18C55zCTER-18C56
zCTER-18C57zCTER-18C58zCTER-18C59zCTER-18C5AzCTER-18C5BzCTER-18C5CzCTER-18C5DzCTER-18C5EzCTER-18C5F
zCTER-18C60zCTER-18C61zCTER-18C62zCTER-18C63zCTER-18C64zCTER-18C65zCTER-18C66zCTER-18C67zCTER-18C68
zCTER-18C69zCTER-18C6AzCTER-18C6BzCTER-18C6CzCTER-18C6DzCTER-18C6EzCTER-18C6FzCTER-18C70zCTER-18C71
zCTER-18C72zCTER-18C73zCTER-18C74zCTER-18C75zCTER-18C76zCTER-18C77zCTER-18C78zCTER-18C79zCTER-18C7A
zCTER-18C7BzCTER-18C7CzCTER-18C7DzCTER-18C7EzCTER-18C7FzCTER-18C80zCTER-18C81zCTER-18C82zCTER-18C83
zCTER-18C84zCTER-18C85zCTER-18C86zCTER-18C87zCTER-18C88zCTER-18C89zCTER-18C8AzCTER-18C8BzCTER-18C8C
zCTER-18C8DzCTER-18C8EzCTER-18C8FzCTER-18C90zCTER-18C91zCTER-18C92zCTER-18C93zCTER-18C94zCTER-18C95
zCTER-18C96zCTER-18C97zCTER-18C98zCTER-18C99zCTER-18C9AzCTER-18C9BzCTER-18C9CzCTER-18C9DzCTER-18C9E
zCTER-18C9FzCTER-18CA0zCTER-18CA1zCTER-18CA2zCTER-18CA3zCTER-18CA4zCTER-18CA5zCTER-18CA6zCTER-18CA7
zCTER-18CA8zCTER-18CA9zCTER-18CAAzCTER-18CABzCTER-18CACzCTER-18CADzCTER-18CAEzCTER-18CAFzCTER-18CB0
zCTER-18CB1zCTER-18CB2zCTER-18CB3zCTER-18CB4zCTER-18CB5zCTER-18CB6zCTER-18CB7zCTER-18CB8zCTER-18CB9
zCTER-18CBAzCTER-18CBBzCTER-18CBCzCTER-18CBDzCTER-18CBEzCTER-18CBFzCTER-18CC0zCTER-18CC1zCTER-18CC2
zCTER-18CC3zCTER-18CC4zCTER-18CC5zCTER-18CC6zCTER-18CC7zCTER-18CC8zCTER-18CC9zCTER-18CCAzCTER-18CCB
zCTER-18CCCzCTER-18CCDzCTER-18CCEzCTER-18CCFzCTER-18CD0zCTER-18CD1zCTER-18CD2zCTER-18CD3zCTER-18CD4
zCTER-18CD5uFILLERcMER CURRENCY SYMBOL RIELgDIGIT EIGHTmFIVEnOURmNINEmONEmSEVENnIXmTHREEnWOmZERO
gINDEPENDENT VOWEL LYzYYyQAAzAIzAQzAUzEzIzIIzOO TYPE ONEzOO TYPE TWOzUzUKzUUzUUVyRYzYYgLETTER BAnCAoHApOoO
nDAoOnHAnKAoHApOoOnLAoOnMOnNGOoNOoOoYOnPHApOoOnQAnROnSAoHAoSOnTAoHApOoOoTHAqOnVOnYOgSIGN AHSDAmTTHACAN
mVAKRAHASANYAlBANTOCnRIYOOSANnTHAMASATmEYYALlCAMNUC PII KUUHmOENGlKAKABATmHANmOOMUUTlLEK TOOlMUUSIKATOAN
lNIKAHITlPHNAEK MUANlREAHMUKmOBATlSAMYOK SANNYAlTOANDAKHIATmRIISAPlVIRIAMlYUUKALEAPINTUhYMBOL BEI KOETrROC
oUON KOETsROCnDAP KOETrROCq-BEI KOETvROCsUON KOETwROCrMUOY KOETwROCrPII KOETvROCsRAM KOETwROCnLEK ATTAK BEI
yUONxMUOYxPIIyRAMzAM-BEIzAM-BUONzAM-MUOYzAM-PIIxSONnMUOY KOETsROCnPATHAMASAToII KOETrROCoRAM KOETsROC
r-BEI KOETwROCtUON KOETxROCsMUOY KOETxROCsPII KOETwROCnTUTEYASATgVOWEL INHERENT AAwQmSIGN AAsEsIsUrErIsEsI
rOEsOrUsAsUrYsAsYcOJKI ABBREVIATION SIGNhDANDAiOUBLE DANDAoSECTION MARKhLETTER ApApIpUoBApBApHAoCApHAoDApDA
qDAqHApHAoEoGApGApHAoHAoIoJApJAoKApHAoLApLAoMAoNApGApNApYAoOoPApHAoRAoSAoTApHApTAqHAoUoVAoYAhSECTION MARK
iIGN ANUSVARAmNUKTAmSHADDAnUKUNmVIRAMAhVOWEL SIGN AAtItUsEsItIsOsUhWORD SEPARATORcUDAWADI DIGIT EIGHTqFIVE
rOURqNINEqONEqSEVENrIXqTHREErWOqZEROkLETTER AsAsIsUrBAsBAsHArCAsHArDAsDAtDAtHAsHArErGAsGAsHArHArIsIrJAsHAsJA
rKAsHArLArMArNAsGAsNAsYArOrPAsHArRAsRArSAsHArTAsHAsTAtHArUsUrVArYAkSIGN ANUSVARApNUKTApVIRAMAkVOWEL SIGN AA
wIwUvEvIwIvOvUwUbIMONOcP SIGNcSSe MARKeING CAT FACE WITH CLOSED EYESiFACEm WITH CLOSED EYESsSMILING EYEScTE
cWIFRUITbNEELING PERSONcOTbOALAcREAN STANDARD SYMBOLbRONOSaL B BAR SYMBOLbAB COATdELcCROSSE STICK AND BALL
cDDERdY BEETLEcNGUAGE TAGcO CANCELLATION MARKeDIGIT EIGHTkFIVElOURkNINEkONEkSEVENlIXkTHREElWOkZEROeELLIPSIS
eHO MOhNOeKO LAeLETTER BOlCOlDOlFO FAYpONoSUNGoTAMlHO SUNGoTAMlKHMU GOqNYOnO SUNGpTAMmOlLOn LINGpOOTlMOlNGO
mOmYOlOlPALI BHAqCHAqDDAsHArHAqGHAqJHAqLLAqNNArYAqTTAsHAmHO SUNGpTAMmOlROlSANSKRIT SHAvSAmO SUNGoTAM
lTHO SUNGpTAMmOlWOlYOeNIGGAHITAeSEMIVOWEL SIGN LOtNYOfIGN PALI VIRAMAeTONE MAI CATAWAnEKnTHOoIeVOWEL SIGN A
qAqIqMqYpEqIpIqIpMAI KANuONpOpUqUpYqYcRGE BLUE CIRCLElDIAMONDlSQUAREhROWN CIRCLEmSQUAREgCIRCLEgDOWN TACK
gGREEN CIRCLEmSQUAREgLEFT TRIANGLE OPERATORgONE DOT OVER TWO DOTS PUNCTUATION
kRING OVER TWO RINGS PUNCTUATIONhRANGE CIRCLEnDIAMONDnSQUAREgPURPLE CIRCLEnSQUAREgRED CIRCLEkSQUARE
gTRIPLE VERTICAL BAR OPERATORhWO DOTS OVER ONE DOT PUNCTUATIONkRINGS OVER ONE RING PUNCTUATIONgUP TACK
gYELLOW CIRCLEnSQUAREfR THANl OR EQUAL TOdI SIGNcST QUARTER MOONr SYMBOLsWITH FACEcTIN CAPITAL LETTER A
w WITH ACUTEzTH BREVEzTH BREVE AND ACUTEzTH BREVE AND DOT BELOWzTH BREVE AND GRAVEzTH BREVE AND HOOK ABOVE
zTH BREVE AND TILDEzTH CARONzTH CIRCUMFLEXzTH CIRCUMFLEX AND ACUTEzTH CIRCUMFLEX AND DOT BELOW
zTH CIRCUMFLEX AND GRAVEzTH CIRCUMFLEX AND HOOK ABOVEzTH CIRCUMFLEX AND TILDEzTH DIAERESIS
zTH DIAERESIS AND MACRONzTH DOT ABOVEzTH DOT ABOVE AND MACRONzTH DOT BELOWzTH DOUBLE GRAVEzTH GRAVE
zTH HOOK ABOVEzTH INVERTED BREVEzTH MACRONzTH OGONEKzTH RING ABOVEzTH RING ABOVE AND ACUTEzTH RING BELOW
zTH STROKEzTH TILDEwAwEx WITH ACUTEzITH MACRONwFRICAN DwLPHAwNGLICANA WwOwUwVx WITH HORIZONTAL BARwYvB
w WITH DOT ABOVEzTH DOT BELOWzTH FLOURISHzTH HOOKzTH LINE BELOWzTH STROKEzTH TOPBARwETAwROKEN LvC
w WITH ACUTEzTH BARzTH CARONzTH CEDILLAzTH CEDILLA AND ACUTEzTH CIRCUMFLEXzTH DOT ABOVEzTH HOOK
zTH PALATAL HOOKzTH STROKEwHIwLOSED INSULAR GwONwUATRILLOzRILLO WITH COMMAvDw WITH CARONzTH CEDILLA
zTH CIRCUMFLEX BELOWzTH DOT ABOVEzTH DOT BELOWzTH HOOKzTH LINE BELOWzTH SHORT STROKE OVERLAY
zTH SMALL LETTER ZzTH SMALL LETTER Z WITH CARONzTH STROKEzTH TOPBARwZx WITH CARONvEw WITH ACUTEzTH BREVE
zTH CARONzTH CEDILLAzTH CEDILLA AND BREVEzTH CIRCUMFLEXzTH CIRCUMFLEX AND ACUTEzTH CIRCUMFLEX AND DOT BELOW
zTH CIRCUMFLEX AND GRAVEzTH CIRCUMFLEX AND HOOK ABOVEzTH CIRCUMFLEX AND TILDEzTH CIRCUMFLEX BELOW
zTH DIAERESISzTH DOT ABOVEzTH DOT BELOWzTH DOUBLE GRAVEzTH GRAVEzTH HOOK ABOVEzTH INVERTED BREVEzTH MACRON
zTH MACRON AND ACUTEzTH MACRON AND GRAVEzTH OGONEKzTH STROKEzTH TILDEzTH TILDE BELOWwGYPTOLOGICAL AIN
zTOLOGICAL ALEFwNGwSHwTxHwZHy REVERSEDzWITH CARONvFw WITH DOT ABOVEzTH HOOKzTH STROKEvGw WITH ACUTEzTH BREVE
zTH CARONzTH CEDILLAzTH CIRCUMFLEXzTH DOT ABOVEzTH HOOKzTH MACRONzTH OBLIQUE STROKEzTH STROKEwAMMAwHA
wLOTTAL AzTAL IzTAL STOPzTAL UvHw WITH BREVE BELOWzTH CARONzTH CEDILLAzTH CIRCUMFLEXzTH DESCENDER
zTH DIAERESISzTH DOT ABOVEzTH DOT BELOWzTH HOOKzTH STROKEwALF HwENGwWAIRvIw WITH ACUTEzTH BREVEzTH CARON
zTH CIRCUMFLEXzTH DIAERESISzTH DIAERESIS AND ACUTEzTH DOT ABOVEzTH DOT BELOWzTH DOUBLE GRAVEzTH GRAVE
zTH HOOK ABOVEzTH INVERTED BREVEzTH MACRONzTH OGONEKzTH STROKEzTH TILDEzTH TILDE BELOWwNSULAR DzLAR FzLAR G
zLAR RzLAR SzLAR TwOTAwSvJw WITH CIRCUMFLEXzTH CROSSED-TAILzTH STROKEvKw WITH ACUTEzTH CARONzTH CEDILLA
zTH DESCENDERzTH DIAGONAL STROKEzTH DOT BELOWzTH HOOKzTH LINE BELOWzTH OBLIQUE STROKEzTH STROKE
zTH STROKE AND DIAGONAL STROKEvLw WITH ACUTEzTH BARzTH BELTzTH CARONzTH CEDILLAzTH CIRCUMFLEX BELOW
zTH DOT BELOWzTH DOT BELOW AND MACRONzTH DOUBLE BARzTH HIGH STROKEzTH LINE BELOWzTH MIDDLE DOT
zTH MIDDLE TILDEzTH SMALL LETTER JzTH STROKEwJvMw WITH ACUTEzTH DOT ABOVEzTH DOT BELOWzTH HOOKwIDDLE SCOTS S
zLE-WELSH LLzLE-WELSH VvNw WITH ACUTEzTH CARONzTH CEDILLAzTH CIRCUMFLEX BELOWzTH DESCENDERzTH DOT ABOVE
zTH DOT BELOWzTH GRAVEzTH LEFT HOOKzTH LINE BELOWzTH LONG RIGHT LEGzTH OBLIQUE STROKEzTH SMALL LETTER J
zTH TILDEwJvOw WITH ACUTEzTH BREVEzTH CARONzTH CIRCUMFLEXzTH CIRCUMFLEX AND ACUTE
zTH CIRCUMFLEX AND DOT BELOWzTH CIRCUMFLEX AND GRAVEzTH CIRCUMFLEX AND HOOK ABOVEzTH CIRCUMFLEX AND TILDE
zTH DIAERESISzTH DIAERESIS AND MACRONzTH DOT ABOVEzTH DOT ABOVE AND MACRONzTH DOT BELOWzTH DOUBLE ACUTE
zTH DOUBLE GRAVEzTH GRAVEzTH HOOK ABOVEzTH HORNzTH HORN AND ACUTEzTH HORN AND DOT BELOWzTH HORN AND GRAVE
zTH HORN AND HOOK ABOVEzTH HORN AND TILDEzTH INVERTED BREVEzTH LONG STROKE OVERLAYzTH LOOPzTH MACRON
zTH MACRON AND ACUTEzTH MACRON AND GRAVEzTH MIDDLE TILDEzTH OGONEKzTH OGONEK AND MACRONzTH STROKE
zTH STROKE AND ACUTEzTH TILDEzTH TILDE AND ACUTEzTH TILDE AND DIAERESISzTH TILDE AND MACRONwIwLD POLISH O
wMEGAwOwPEN Ez OwUvPw WITH ACUTEzTH DOT ABOVEzTH FLOURISHzTH HOOKzTH SQUIRREL TAILzTH STROKE
zTH STROKE THROUGH DESCENDERvQw WITH DIAGONAL STROKEzTH STROKE THROUGH DESCENDERvRw ROTUNDAxWITH ACUTE
zTH CARONzTH CEDILLAzTH DOT ABOVEzTH DOT BELOWzTH DOT BELOW AND MACRONzTH DOUBLE GRAVEzTH INVERTED BREVE
zTH LINE BELOWzTH OBLIQUE STROKEzTH STROKEzTH TAILwEVERSED C WITH DOTzRSED EzRSED HALF HzRSED OPEN E
wUM ROTUNDAvSw WITH ACUTEzTH ACUTE AND DOT ABOVEzTH CARONzTH CARON AND DOT ABOVEzTH CEDILLAzTH CIRCUMFLEX
zTH COMMA BELOWzTH DOT ABOVEzTH DOT BELOWzTH DOT BELOW AND DOT ABOVEzTH HOOKzTH OBLIQUE STROKE
zTH SHORT STROKE OVERLAYzTH SWASH TAILwALTILLOwCHWAxRIPT GwHARP SwIGMOID SwMALL CAPITAL IzL Q WITH HOOK TAIL
vTw WITH CARONzTH CEDILLAzTH CIRCUMFLEX BELOWzTH COMMA BELOWzTH DIAGONAL STROKEzTH DOT ABOVEzTH DOT BELOW
zTH HOOKzTH LINE BELOWzTH RETROFLEX HOOKzTH STROKEwHORNzN WITH STROKEzN WITH STROKE THROUGH DESCENDER
wONE FIVEz SIXz TWOwRESILLOwURNED AzED ALPHAzED HzED INSULAR GzED KzED LzED MzED TzED VwZvUw BARxWITH ACUTE
zTH BREVEzTH CARONzTH CIRCUMFLEXzTH CIRCUMFLEX BELOWzTH DIAERESISzTH DIAERESIS AND ACUTE
zTH DIAERESIS AND CARONzTH DIAERESIS AND GRAVEzTH DIAERESIS AND MACRONzTH DIAERESIS BELOWzTH DOT BELOW
zTH DOUBLE ACUTEzTH DOUBLE GRAVEzTH GRAVEzTH HOOK ABOVEzTH HORNzTH HORN AND ACUTEzTH HORN AND DOT BELOW
zTH HORN AND GRAVEzTH HORN AND HOOK ABOVEzTH HORN AND TILDEzTH INVERTED BREVEzTH MACRON
zTH MACRON AND DIAERESISzTH OGONEKzTH RING ABOVEzTH STROKEzTH TILDEzTH TILDE AND ACUTEzTH TILDE BELOWwPSILON
vVw WITH DIAGONAL STROKEzTH DOT BELOWzTH HOOKzTH TILDEwENDwISIGOTHIC ZwOLAPUK AEzPUK OEzPUK UEwYvW
w WITH ACUTEzTH CIRCUMFLEXzTH DIAERESISzTH DOT ABOVEzTH DOT BELOWzTH GRAVEzTH HOOKwYNNvXw WITH DIAERESIS
zTH DOT ABOVEvYw WITH ACUTEzTH CIRCUMFLEXzTH DIAERESISzTH DOT ABOVEzTH DOT BELOWzTH GRAVEzTH HOOK
zTH HOOK ABOVEzTH LOOPzTH MACRONzTH STROKEzTH TILDEwOGHvZw WITH ACUTEzTH CARONzTH CIRCUMFLEXzTH DESCENDER
zTH DOT ABOVEzTH DOT BELOWzTH HOOKzTH LINE BELOWzTH PALATAL HOOKzTH STROKEzTH SWASH TAILpIGATURE IJxOEhROSS
gEPIGRAPHIC LETTER ARCHAIC MyI LONGAzNVERTED MyREVERSED FzEVERSED PySIDEWAYS IgLETTER AINoLVEOLAR CLICK
nBIDENTAL PERCUSSIVEpLABIAL CLICKwPERCUSSIVEnDENTAL CLICKnGLOTTAL STOPz WITH STROKEnINVERTED GLOTTAL STOP
zTTAL STOP WITH CURLzTTAL STOP WITH STROKEnLATERAL CLICKnPHARYNGEAL VOICED FRICATIVEnRETROFLEX CLICK
zICK WITH RETROFLEX HOOKpVERSED ESH LOOPwGLOTTAL STOP WITH STROKEnSINOLOGICAL DOToMALL CAPITAL AzL AEzL B
zL BARRED BzL CzL DzL EzL ETHzL EZHzL FzL GzL G WITH HOOKzL HzL IzL INVERTED RzL JzL KzL LzL L WITH BELT
zL L WITH STROKEzL MzL NzL OzL OEzL OPEN OzL OUzL PzL QzL RzL R WITH RIGHT LEGzL REVERSED NzL REVERSED R
zL RUMzL SzL TzL TURNED EzL TURNED GzL TURNED KzL TURNED MzL TURNED RzL UzL VzL WzL YzL ZoTRETCHED C
y WITH CURLnTWO WITH STROKEnVOICED LARYNGEAL SPIRANTnWYNNnYRgSMALL CAPITAL LETTER I WITH STROKE
zR U WITH STROKEmLETTER Au REVERSED-SCHWAvWITH ACUTEz BREVEz BREVE AND ACUTEz BREVE AND DOT BELOW
z BREVE AND GRAVEz BREVE AND HOOK ABOVEz BREVE AND TILDEz CARONz CIRCUMFLEXz CIRCUMFLEX AND ACUTE
z CIRCUMFLEX AND DOT BELOWz CIRCUMFLEX AND GRAVEz CIRCUMFLEX AND HOOK ABOVEz CIRCUMFLEX AND TILDEz DIAERESIS
z DIAERESIS AND MACRONz DOT ABOVEz DOT ABOVE AND MACRONz DOT BELOWz DOUBLE GRAVEz GRAVEz HOOK ABOVE
z INVERTED BREVEz MACRONz OGONEKz RETROFLEX HOOKz RIGHT HALF RINGz RING ABOVEz RING ABOVE AND ACUTE
z RING BELOWz STROKEz TILDEuAuEv WITH ACUTEzH MACRONuLPHAy WITH RETROFLEX HOOKuNGLICANA WuOuUuV
v WITH HORIZONTAL BARuYtBu WITH DOT ABOVEz DOT BELOWz FLOURISHz HOOKz LINE BELOWz MIDDLE TILDEz PALATAL HOOK
z STROKEz TOPBARuARRED ALPHAz Ez OvSELINE ESHuETAuLACKLETTER EzETTER OzETTER O WITH STROKEuOTTOM HALF O
uROKEN LtCu WITH ACUTEz BARz CARONz CEDILLAz CEDILLA AND ACUTEz CIRCUMFLEXz CURLz DOT ABOVEz HOOK
z PALATAL HOOKz RETROFLEX HOOKz STROKEuHIw WITH LOW LEFT SERIFzTH LOW RIGHT RINGuLOSED INSULAR Gz OMEGA
z OPEN Ez REVERSED OPEN EuONuUATRILLOzLLO WITH COMMAtDu WITH CARONz CEDILLAz CIRCUMFLEX BELOWz CURL
z DOT ABOVEz DOT BELOWz HOOKz HOOK AND TAILz LINE BELOWz MIDDLE TILDEz PALATAL HOOKz SHORT STROKE OVERLAY
z STROKEz TAILz TOPBARuB DIGRAPHuELTAvZH DIGRAPHzIGRAPH WITH PALATAL HOOKzIGRAPH WITH RETROFLEX HOOK
uOTLESS IzS JzS J WITH STROKEzS J WITH STROKE AND HOOKvUBLE Rz R WITH CROSSED-TAILz THORNz WYNNuUMuZ
v DIGRAPHzRAPH WITH CURLzRAPH WITH RETROFLEX HOOKwWITH CARONtEu WITH ACUTEz BREVEz CARONz CEDILLA
z CEDILLA AND BREVEz CIRCUMFLEXz CIRCUMFLEX AND ACUTEz CIRCUMFLEX AND DOT BELOWz CIRCUMFLEX AND GRAVE
z CIRCUMFLEX AND HOOK ABOVEz CIRCUMFLEX AND TILDEz CIRCUMFLEX BELOWz DIAERESISz DOT ABOVEz DOT BELOW
z DOUBLE GRAVEz FLOURISHz GRAVEz HOOK ABOVEz INVERTED BREVEz MACRONz MACRON AND ACUTEz MACRON AND GRAVE
z NOTCHz OGONEKz RETROFLEX HOOKz STROKEz TILDEz TILDE BELOWuGYPTOLOGICAL AINzLOGICAL ALEFuNG
w WITH CROSSED-TAILzTH PALATAL HOOKuSHw WITH CURLzTH DOUBLE BARzTH DOUBLE BAR AND CURLzTH PALATAL HOOK
zTH RETROFLEX HOOKuTvHuZHw REVERSEDxWITH CARONzTH CURLzTH PALATAL HOOKzTH RETROFLEX HOOKzTH TAILtF
u WITH DOT ABOVEz HOOKz MIDDLE TILDEz PALATAL HOOKz STROKEuENG DIGRAPHzIGRAPH WITH TRILLtGu WITH ACUTE
z BREVEz CARONz CEDILLAz CIRCUMFLEXz DOT ABOVEz HOOKz MACRONz OBLIQUE STROKEz PALATAL HOOKz STROKEuAMMAuHA
uLOTTAL AzL IzL STOPzL UtHu WITH BREVE BELOWz CARONz CEDILLAz CIRCUMFLEXz DESCENDERz DIAERESISz DOT ABOVE
z DOT BELOWz HOOKz LINE BELOWz PALATAL HOOKz STROKEuALF HuENGx WITH HOOKuVtIu WITH ACUTEz BREVEz CARON
z CIRCUMFLEXz DIAERESISz DIAERESIS AND ACUTEz DOT BELOWz DOUBLE GRAVEz GRAVEz HOOK ABOVEz INVERTED BREVE
z MACRONz OGONEKz RETROFLEX HOOKz STROKEz STROKE AND RETROFLEX HOOKz TILDEz TILDE BELOWuNSULAR DzR FzR GzR R
zR SzR TvVERTED ALPHAzED OEuOTAx WITH STROKEwIFIED EuStJu WITH CARONz CIRCUMFLEXz CROSSED-TAILz STROKEtK
u WITH ACUTEz CARONz CEDILLAz DESCENDERz DIAGONAL STROKEz DOT BELOWz HOOKz LINE BELOWz OBLIQUE STROKE
z PALATAL HOOKz STROKEz STROKE AND DIAGONAL STROKEuRAtLu WITH ACUTEz BARz BELTz BELT AND PALATAL HOOKz CARON
z CEDILLAz CIRCUMFLEX BELOWz CURLz DOT BELOWz DOT BELOW AND MACRONz DOUBLE BARz DOUBLE MIDDLE TILDE
z FISHHOOKz HIGH STROKEz INVERTED LAZY Sz LINE BELOWz MIDDLE DOTz MIDDLE RINGz MIDDLE TILDEz PALATAL HOOK
z RETROFLEX HOOKz RETROFLEX HOOK AND BELTz STROKEuAMBDA WITH STROKEuENIS FvZHx WITH RETROFLEX HOOKuJuONG S
z WITH DIAGONAL STROKEz WITH DOT ABOVEz WITH HIGH STROKEuS DIGRAPHuUMuZ DIGRAPHtMu WITH ACUTEz CROSSED-TAIL
z DOT ABOVEz DOT BELOWz HOOKz MIDDLE TILDEz PALATAL HOOKuIDDLE SCOTS Sz-WELSH LLz-WELSH VuUMtN
u PRECEDED BY APOSTROPHEvWITH ACUTEz CARONz CEDILLAz CIRCUMFLEX BELOWz CROSSED-TAILz CURLz DESCENDER
z DOT ABOVEz DOT BELOWz GRAVEz LEFT HOOKz LINE BELOWz LONG RIGHT LEGz MIDDLE TILDEz OBLIQUE STROKE
z PALATAL HOOKz RETROFLEX HOOKz TILDEuJuUMtOu WITH ACUTEz BREVEz CARONz CIRCUMFLEXz CIRCUMFLEX AND ACUTE
z CIRCUMFLEX AND DOT BELOWz CIRCUMFLEX AND GRAVEz CIRCUMFLEX AND HOOK ABOVEz CIRCUMFLEX AND TILDEz DIAERESIS
z DIAERESIS AND MACRONz DOT ABOVEz DOT ABOVE AND MACRONz DOT BELOWz DOUBLE ACUTEz DOUBLE GRAVEz GRAVE
z HOOK ABOVEz HORNz HORN AND ACUTEz HORN AND DOT BELOWz HORN AND GRAVEz HORN AND HOOK ABOVEz HORN AND TILDE
z INVERTED BREVEz LONG STROKE OVERLAYz LOOPz LOW RING INSIDEz MACRONz MACRON AND ACUTEz MACRON AND GRAVE
z OGONEKz OGONEK AND MACRONz RETROFLEX HOOKz STROKEz STROKE AND ACUTEz TILDEz TILDE AND ACUTE
z TILDE AND DIAERESISz TILDE AND MACRONuIuLD POLISH OuMEGAuOuPEN Ez WITH RETROFLEX HOOKyO
z WITH RETROFLEX HOOKz WITH STROKEzEuUtPu WITH ACUTEz DOT ABOVEz FLOURISHz HOOKz MIDDLE TILDEz PALATAL HOOK
z SQUIRREL TAILz STROKEz STROKE THROUGH DESCENDERuHItQu WITH DIAGONAL STROKEz HOOKz HOOK TAIL
z STROKE THROUGH DESCENDERuP DIGRAPHtRu ROTUNDAvWITH ACUTEz CARONz CEDILLAz CROSSED-TAILz DOT ABOVE
z DOT BELOWz DOT BELOW AND MACRONz DOUBLE GRAVEz FISHHOOKz FISHHOOK AND MIDDLE TILDE
z FISHHOOK AND PALATAL HOOKz INVERTED BREVEz LINE BELOWz LONG LEGz MIDDLE TILDEz OBLIQUE STROKE
z PALATAL HOOKz STROKEz TAILzOUT HANDLEuAMS HORNuEVERSED CzED C WITH DOTzED EzED ENGzED HALF HzED K
zED OPEN EzED OPEN E WITH HOOKzED OPEN E WITH RETROFLEX HOOKzED R WITH FISHHOOKzED SCRIPT GuUMw ROTUNDAtS
u WITH ACUTEz ACUTE AND DOT ABOVEz CARONz CARON AND DOT ABOVEz CEDILLAz CIRCUMFLEXz COMMA BELOWz CURL
z DOT ABOVEz DOT BELOWz DOT BELOW AND DOT ABOVEz HOOKz MIDDLE TILDEz OBLIQUE STROKEz PALATAL HOOK
z SHORT STROKE OVERLAYz SWASH TAILuAKHA YATvLTILLOuCHWAy WITH HOOKzWITH RETROFLEX HOOKvRIPT G
z G WITH CROSSED-TAILz Rz R WITH RINGuHARP SuIDEWAYS DIAERESIZED UzYS OzYS O WITH STROKEzYS OPEN O
zYS TURNED MzYS UvGMOID SuQUAT REVERSED ESHuTIRRUP RtTu WITH CARONz CEDILLAz CIRCUMFLEX BELOWz COMMA BELOW
z CURLz DIAERESISz DIAGONAL STROKEz DOT ABOVEz DOT BELOWz HOOKz HOOK AND RETROFLEX HOOKz LINE BELOW
z MIDDLE TILDEz PALATAL HOOKz RETROFLEX HOOKz STROKEuAILLESS PHIuC DIGRAPH WITH CURLuESH DIGRAPH
zIGRAPH WITH PALATAL HOOKzIGRAPH WITH RETROFLEX HOOKuH WITH STRIKETHROUGHvORNy WITH STROKE
zWITH STROKE THROUGH DESCENDERuONE FIVEySIXyTWOvP HALF OuRESILLOuS DIGRAPHzRAPH WITH RETROFLEX HOOKuUM
vRNED Az AEz ALPHAz DELTAz Ez Gz Hz H WITH FISHHOOKz H WITH FISHHOOK AND TAILz Iz INSULAR Gz Kz Lz M
z M WITH LONG LEGz O OPEN-Oz O OPEN-O WITH STROKEz OEz OE WITH HORIZONTAL STROKEz OE WITH STROKEz OPEN Ez R
z R WITH HOOKz R WITH LONG LEGz R WITH LONG LEG AND RETROFLEX HOOKz R WITH MIDDLE TILDEz R WITH PALATAL HOOK
z R WITH TAILz Tz T WITH CURLz UIz Vz Wz Yz Y WITH BELTuZtUu BARy WITH SHORT RIGHT LEGvWITH ACUTEz BREVE
z CARONz CIRCUMFLEXz CIRCUMFLEX BELOWz DIAERESISz DIAERESIS AND ACUTEz DIAERESIS AND CARON
z DIAERESIS AND GRAVEz DIAERESIS AND MACRONz DIAERESIS BELOWz DOT BELOWz DOUBLE ACUTEz DOUBLE GRAVEz GRAVE
z HOOK ABOVEz HORNz HORN AND ACUTEz HORN AND DOT BELOWz HORN AND GRAVEz HORN AND HOOK ABOVEz HORN AND TILDE
z INVERTED BREVEz LEFT HOOKz MACRONz MACRON AND DIAERESISz OGONEKz RETROFLEX HOOKz RING ABOVE
z SHORT RIGHT LEGz STROKEz TILDEz TILDE AND ACUTEz TILDE BELOWuEuIuMuOuPSILONzN WITH STROKEtVu WITH CURL
z DIAGONAL STROKEz DOT BELOWz HOOKz PALATAL HOOKz RIGHT HOOKz TILDEuENDuISIGOTHIC ZuOLAPUK AEzK OEzK UEuYtW
u WITH ACUTEz CIRCUMFLEXz DIAERESISz DOT ABOVEz DOT BELOWz GRAVEz HOOKz RING ABOVEtXu WITH DIAERESIS
z DOT ABOVEz LONG LEFT LEGz LONG LEFT LEG AND LOW RIGHT RINGz LONG LEFT LEG WITH SERIFz LOW RIGHT RING
z PALATAL HOOKtYu WITH ACUTEz CIRCUMFLEXz DIAERESISz DOT ABOVEz DOT BELOWz GRAVEz HOOKz HOOK ABOVEz LOOP
z MACRONz RING ABOVEz SHORT RIGHT LEGz STROKEz TILDEuOGHtZu WITH ACUTEz CARONz CIRCUMFLEXz CURLz DESCENDER
z DOT ABOVEz DOT BELOWz HOOKz LINE BELOWz MIDDLE TILDEz PALATAL HOOKz RETROFLEX HOOKz STROKEz SWASH TAIL
nIGATURE FFxIxLwIwLvIJvLONG S TvOEvSThUBSCRIPT SMALL LETTER AzTER EzTER HzTER IzTER JzTER KzTER LzTER M
zTER NzTER OzTER PzTER RzTER SzTER SCHWAzTER TzTER UzTER VzTER XbEAF FLUTTERING IN WINDeY GREENcDGER
cFT AND LOWER AND RIGHT TRIANGULAR THREE QUARTERS BLOCKpONE EIGHTH BLOCKjRIGHT DOUBLE TURNSTILEpTACK
qRIANGULAR HALF BLOCKjUPPER AND RIGHT TRIANGULAR THREE QUARTERS BLOCKpONE EIGHTH BLOCKhGER BUBBLEiLE BRACKET
s WITH DOTgRC LESS-THAN BRACKEThROW WITH CIRCLED PLUSqSMALL CIRCLEfBARB DOWN RIGHT BARB DOWN HARPOON
z UP HARPOONkUP RIGHT BARB DOWN HARPOONyUP HARPOONgLACK LENTICULAR BRACKETlTORTOISE SHELL BRACKETfCEILING
gLOSED ENTRYgORNER BRACKETgURLY BRACKETs LOWER HOOKtMIDDLE PIECEtUPPER HOOKfDOTTED SUBSTITUTION BRACKET
hUBLE ANGLE BRACKETmPARENTHESISmQUOTATION MARKmWIGGLY FENCEfFISH TAILhVE EIGHTHS BLOCKgLOOR
fHALF BLACK CIRCLEqSTARmOCKkCIRCLEq WITH DOTwFOUR DOTSwTHREE DOTSxWO DOTSkFOLDER
kINVERSE MEDIUM SHADE AND RIGHT HALF BLOCKkMEDIUM SHADEkRUNNING MANhND TELEPHONE RECEIVER
fLOW PARAPHRASE BRACKETgUGGAGEfMULTIMAPfNORMAL FACTOR SEMIDIRECT PRODUCTfONE EIGHTH BLOCKjQUARTER BLOCK
gUTER JOINfPARENTHESISq EXTENSIONrLOWER HOOKrUPPER HOOKfRAISED OMISSION BRACKETgIGHT ARROW
q THROUGH SMALL CIRCLErWITH DOUBLE VERTICAL STROKEwSTROKEwVERTICAL STROKElBLACK ARROWlDOUBLE ARROW
x WITH STROKEzITH VERTICAL STROKElOPEN-HEADED ARROWlSANS-SERIF ARROWlTRIANGLE-HEADED ARROWlWAVE ARROW
mHITE ARROWfS-SHAPED BAG DELIMITERgEMIDIRECT PRODUCThVEN EIGHTHS BLOCKgIDEWAYS U BRACKEThNGLE QUOTATION MARK
gPEECH BUBBLEgQUARE BRACKETt EXTENSIONuLOWER CORNERuUPPER CORNERuWITH DOUBLE STROKEzQUILLzSTROKE
zTICK IN BOTTOM CORNERzTICK IN TOP CORNERzUNDERBARgUBSTITUTION BRACKETfTACKgHIRD WHITE RIGHT POINTING INDEX
hOUGHT BUBBLEhREE EIGHTHS BLOCKlQUARTERS BLOCKgORTOISE SHELL BRACKETgRANSPOSITION BRACKET
hIANGLE BESIDE VERTICAL BARlULAR ONE QUARTER BLOCKfVERTICAL BAR WITH QUILLpOX LINEfWHITE CORNER BRACKET
mURLY BRACKETlLENTICULAR BRACKETlPARENTHESISlSQUARE BRACKETlTORTOISE SHELL BRACKETgIGGLY FENCEgRITING HAND
e-FACING ARMENIAN ETERNITY SIGNmFISTmSVASTI SIGNx WITH DOTSfHANDED INTERLACED PENTAGRAM
fPOINTING ANGLE BRACKEToCURVED ANGLE BRACKEToDOUBLE ANGLE QUOTATION MARKoMAGNIFYING GLASS
fSHADED WHITE RIGHTWARDS ARROWgIDE ARC ANTICLOCKWISE ARROWfTO-RIGHT EMBEDDINGoISOLATEoMARKoOVERRIDE
eWARDS ARROWp ABOVE ALMOST EQUAL TOwREVERSE ALMOST EQUAL TOzERSE TILDE OPERATORwSHORT RIGHTWARDS ARROW
wTILDE OPERATORrND UPPER AND LOWER ONE EIGHTH BLOCKqFROM BARy TO BLACK DIAMONDqOVER RIGHTWARDS ARROW
qTHROUGH LESS-THANySUBSETyXrO BARw OVER RIGHTWARDS ARROW TO BARuLACK DIAMONDqWITH DOTTED STEM
xUBLE VERTICAL STROKEvEQUILATERAL ARROWHEADvHOOKvLARGE TRIANGLE ARROWHEADwOOPvMEDIUM TRIANGLE ARROWHEAD
vNOTCHED TAILvPLUS BELOWvSMALL EQUILATERAL ARROWHEADzL TRIANGLE ARROWHEADwTROKEvTAIL
z WITH DOUBLE VERTICAL STROKEz WITH VERTICAL STROKEwIP DOWNWARDSzUPWARDSvVERTICAL STROKEp-TAIL
kBACK-TILTED SHADOWED WHITE ARROWlLACK ARROWqCIRCLED WHITE ARROWlOTTOM-SHADED WHITE ARROWkCOMPRESSED ARROW
kDASHED ARROWlOUBLE ARROWw FROM BARxWITH STROKEzTH VERTICAL STROKEw-TAILrDASH ARROWkFINGER-POST ARROW
lRONT-TILTED SHADOWED WHITE ARROWkHANDmRPOON OVER RIGHTWARDS HARPOON
sWITH BARB DOWN ABOVE RIGHTWARDS HARPOON WITH BARB DOWNzRB DOWN BELOW LONG DASHzRB DOWN FROM BAR
zRB DOWN TO BARzRB DOWNWARDSzRB UP ABOVE LEFTWARDS HARPOON WITH BARB DOWNzRB UP ABOVE LONG DASH
zRB UP ABOVE RIGHTWARDS HARPOON WITH BARB UPzRB UP FROM BARzRB UP TO BARzRB UPWARDSlEAVY ARROW
qCOMPRESSED ARROWkLEFT-SHADED WHITE ARROWkOPEN-HEADED ARROWkPAIRED ARROWSkQUADRUPLE ARROW
kRIGHT-SHADED WHITE ARROWlOCKETkSANS-SERIF ARROWlQUARED ARROWnIGGLE ARROWkTOP SHADED WHITE ARROW
lRIANGLE ARROWHEADs-HEADED ARROWz ARROW OVER RIGHTWARDS TRIANGLE-HEADED ARROWz ARROW TO BAR
z ARROW WITH BOLD SHAFTz ARROW WITH DOUBLE HORIZONTAL STROKEz ARROW WITH DOUBLE VERTICAL STROKE
z ARROW WITH HEAVY SHAFTz ARROW WITH LONG TIP DOWNWARDSz ARROW WITH LONG TIP UPWARDS
z ARROW WITH MEDIUM SHAFTz ARROW WITH NARROW SHAFTz ARROW WITH VERY HEAVY SHAFTz DASHED ARROWz PAIRED ARROWS
nPLE ARROWrDASH ARROWlWO HEADED ARROWn-HEADED ARROW FROM BARzW WITH DOUBLE VERTICAL STROKEzW WITH TAIL
zW WITH TAIL WITH DOUBLE VERTICAL STROKEzW WITH TAIL WITH VERTICAL STROKEzW WITH TRIANGLE ARROWHEADS
zW WITH VERTICAL STROKEvTRIPLE DASH ARROWkWAVE ARROWlHITE ARROWv WITHIN TRIANGLE ARROWHEADcGcMONcOdPARD
cPCHA CONSONANT SIGN KxANGwLwMwNxYIN-DOwPwRwThDIGIT EIGHTnFIVEoOURnNINEnONEnSEVENoIXnTHREEoWOnZEROhLETTER A
oBApLAoCApHAoDApDApZAoFApLAoGApLAoHApLAoJAoKApHApLAoLAoMApLAoNApGApYAoPApHApLAoRAoSApHAoTApHApSAqHApTAqHAoVA
oWAoYAhPUNCTUATION CER-WAtNYET THYOOM TA-ROLtTA-ROLuSHOOKz CER-WAhSIGN NUKTAmRANiUBJOINED LETTER RAyYA
hVOWEL SIGN AAsEsIsOtOsUtUcSS-THAN ABOVE DOUBLE-LINE EQUAL ABOVE GREATER-THAN
qGREATER-THAN ABOVE DOUBLE-LINE EQUALqLEFTWARDS ARROWqSIMILAR ABOVE GREATER-THANyOR EQUAL
rLANTED EQUAL ABOVE GREATER-THAN ABOVE SLANTED EQUALlND NOT APPROXIMATEoSINGLE-LINE NOT EQUAL TO
kBUT NOT EQUAL TOvIVALENT TOkCLOSED BY CURVEz ABOVE SLANTED EQUALkEQUAL TO OR GREATER-THANkOR APPROXIMATE
nEQUAL TOqIVALENT TOnGREATER-THANnSLANTED EQUAL TOzL TO WITH DOT ABOVEzL TO WITH DOT ABOVE RIGHT
zL TO WITH DOT INSIDElVER EQUAL TOkSIGNkWITH CIRCLE INSIDEpDOTpQUESTION MARK ABOVEcVEL SLIDERbFbIBRA
cGATURE OPEN ET ORNAMENTdHT CHECK MARKgEIGHT SPOKED ASTERISKgFIVE POINTED BLACK STARlSPOKED ASTERISK
hOUR POINTED BLACK CUSPzSTARgGREEK CROSSgLEFT TORTOISE SHELL BRACKET ORNAMENTgRAIL
hIGHT TORTOISE SHELL BRACKET ORNAMENTgSALTIREhHADEhIX SPOKED ASTERISKgTHREE POINTED BLACK STAR
hWELVE POINTED BLACK STARgVERTICAL BARgWHITE SQUAREfNINGj MOODo BUBBLEcMBU DIGIT EIGHTmFIVEnOURmNINEmONE
mSEVENnIXmTHREEnWOmZEROgEXCLAMATION MARKgLETTER BAoHAnCAoHAnDAoHAnGAoHAoYANnHAnJAoHAnKAoHAnLAnMAnNAoGAnPAoHA
nRAnSAoHAoSAnTAoHAoRAnWAnYApNgQUESTION MARKgSIGN KEMPHRENGlLOOlMUKPHRENGlSA-IhMALL LETTER ANUSVARAtKAtLAtMA
tNAuGAtPAtRAtTAhUBJOINED LETTER RAxWAxYAgVOWEL SIGN AsIsUrEsErIrOsOrUl-CARRIER LETTERdITED LIABILITY SIGN
cNE FEEDfINTEGRATION NOT INCLUDING THE POLErWITH RECTANGULAR PATH AROUND POLEwSEMICIRCULAR PATH AROUND POLE
fSEPARATORfTABULATIONp SETeAR A SIGN A028Bp100-102q20Bq31Cp301r2r3r4r5r6r7r8r9AsBsCq10r1r2r3AsBsCr4r5r6r7r8
r9q20r1r2r3r4r5r6r7r8r9q30r1r2r3r4r5r6r7r8r9q40r1r2r3r4r5r6r7r8r9q50r1r2r3r4r5r6r7r8r9q60r1r2r3r4r5r6r7r8r9
q70r1p400-VASr1-VASr2-VASr3-VASr4-VASr5-VASr6-VASr7-VASr8-VASr9-VASq10-VASr1-VASr2-VASr3-VASr4-VASr5-VAS
r6-VASr7-VASr8-VASp501r2r3r4r5r6r8r9q10r1r2r3r5r6q20r1r3r4r5r6r7r8r9q30r1r2r4r5r6r7r8r9q40r1r2r5r7r8r9q50r1
r2r3r4r5r6r7r9q63r4r5r6r8r9q70r1r2r3r4r5r6r7r8r9q80r1r2r3r4r5r6r7r8r9q91r2r4r5r6r8p600r1r2r3r4r6r8r9q10r1r2
r3r4r5r6r7r8r9q20r1r2r3r4r6r7r8r9q34r7r8q40r2r3r4r5r6r8r9q51r2r3r4r5r6r7r8r9q60r1r2r3r4p701 Ar2 Br3 Dr4 E
r5 Fr6 Hr7 Jr8 Kr9 Ls-2 L2t3 L3t4 L4t6 L6q10 Wr1 Xr2 Yr3 OMEGAr4 ABBr5 BBr7 DDq26 EYYYq32 JEp800r1r2r3r4r5r6
r7pB001s2s3s4s5s6s7s8s9r10s1s3s6s7r20s1tFtMs2tFtMs3tMs4s6s7s8s9r30s1s4s7s8s9r40s1s4s5s6s7s8s9r50s1s3s4s5s6s7
s8s9r60s1s5s6s7s9r70s3s4s6s7s8s9r80s1s2s5s6s7q118r20s2s3r31AtBr64r71r80s8r91hB IDEOGRAM B100 MANv2 WOMAN
v4 DEERv5 EQUIDwF MAREwM STALLIONv6F EWEwM RAMv7F SHE-GOATwM HE-GOATv8F SOWwM BOARv9F COWwM BULLu20 WHEAT
v1 BARLEYv2 OLIVEv3 SPICEv5 CYPERUSu30 OILv1 WINEv2u40 BRONZEv1 GOLDv2v5 WOOLv6u50v1 HORNv2v3v4v7v8v9 CLOTH
u60v1v2 GARMENTv3 ARMOURv4v5v6v7v8v9u70v1v2v3 MONTHv4v6 TREEv7v8v9u80v1v2v3v4v5v9u90v1 HELMETt220 FOOTSTOOL
v5 BATHTUBu30 SPEARv1 ARROWv2v3 SWORDv4v6u40 WHEELED CHARIOTv1 CHARIOTv2 CHARIOT FRAMEv3 WHEELv5v6v8v9u51v2
v3v4 DARTv5v6v7v8v9sVESSEL B155zB200zB201zB202zB203zB204zB205zB206zB207zB208zB209zB210zB211zB212zB213zB214
zB215zB216zB217zB218zB219zB221zB222zB226zB227zB228zB229zB250zB305jMONOGRAM B127 KAPOv8 KANAKOu33 AREPA
v5 MERIu56 TURO2t247 DIPTEjSYLLABLE B001 DAv2 ROv3 PAv4 TEv5 TOv6 NAv7 DIv8 Av9 SEu10 Uv1 POv2 SOv3 MEv4 DO
v5 MOv6 QAv7 ZAu20 ZOv1 QIv3 MUv4 NEv5 A2v6 RUv7 REv8 Iv9 PU2u30 NIv1 SAv2 QOv3 RA3v6 JOv7 TIv8 Ev9 PIu40 WI
v1 SIv2 WOv3 A3v4 KEv5 DEv6 JEv8 NWAu50 PUv1 DUv2 NOv3 RIv4 WAv5 NUv7 JAv8 SUv9 TAu60 RAv1 Ov2 PTEv5 JU
v6 TA2v7 KIv8 RO2v9 TUu70 KOv1 DWEv2 PEv3 MIv4 ZEv5 WEv6 RA2v7 KAv8 QEu80 MAv1 KUv5 AUv7 TWEu90 DWOv1 TWO
lMBOL B018t9s22s34s47t9s56s63t4s79s82t3t6t9dK SYMBOLeED PAPERCLIPScON FACEcPSeTICKcRA SIGNcSU LETTER AnEmBA
mCAnHAmDAnZAmEnUmFAmGAnHAmHAnHAmImJAmKAnHAmLAmMAmNAnGAmOnEmPAnHAmSAnHAmTAnHAnONE MYA BOvCYAvJEUvNAvTIrNA PO
nSAoHAmUnEnHmWAmXAmYAnHAmZAnHAfPUNCTUATION COMMArFULL STOPcVRE TOURNOIS SIGNcZARDbLAMAbOBSTERcCK
e WITH INK PENeING-SHIFT ONEoZEROcGICAL ANDl WITH DOT ABOVEtUBLE OVERBARyUNDERBARrHORIZONTAL DASH
rMIDDLE STEMrUNDERBARiORk OVERLAPPING LOGICAL ANDlWITH DOT ABOVEsUBLE OVERBARxUNDERBARqHORIZONTAL DASH
qMIDDLE STEMcLLIPOPcNG DASH FROM LEFT MEMBER OF DOUBLE VERTICALgIVISIONgRUMfLEFT RIGHT ARROWqDOUBLE ARROW
kTACKjWARDS ARROWu FROM BARpDOUBLE ARROWzOW FROM BARpSQUIGGLE ARROWfRIGHT TACKkWARDS ARROWv FROM BAR
qDOUBLE ARROWzROW FROM BARqSQUIGGLE ARROWcTION BOTTLEdUScUDLY CRYING FACEcVE HOTELfLETTERcW ASTERISKeBATTERY
fRIGHTNESS SYMBOLeDOUBLE PRIME QUOTATION MARKeKAVYKAk WITH DOTeLINEdER BLADE SCISSORSgFIVE EIGHTHS BLOCK
gHALF BLOCKlCIRCLElINVERSE WHITE CIRCLElMEDIUM SHADEgLEFT BALLPOINT PEN
mLOCK DIAGONAL LOWER MIDDLE LEFT TO LOWER CENTREz LOWER MIDDLE LEFT TO LOWER RIGHT
z UPPER CENTRE TO LOWER MIDDLE RIGHTz UPPER CENTRE TO LOWER RIGHTz UPPER CENTRE TO UPPER MIDDLE RIGHT
z UPPER LEFT TO LOWER CENTREz UPPER LEFT TO LOWER MIDDLE RIGHTz UPPER LEFT TO UPPER MIDDLE RIGHT
z UPPER MIDDLE LEFT TO LOWER CENTREz UPPER MIDDLE LEFT TO LOWER MIDDLE RIGHT
z UPPER MIDDLE LEFT TO LOWER RIGHTlCRAYONlFOUNTAIN PENlPAINTBRUSHmENCILlQUADRANT CIRCULAR ARC
lSEMICIRCULAR ANTICLOCKWISE ARROWlTRIANGLErULAR MEDIUM SHADEgONE EIGHTH BLOCKkQUARTER BLOCK
gRIGHT BLOCK DIAGONAL LOWER CENTRE TO LOWER MIDDLE RIGHTzL LOWER CENTRE TO UPPER MIDDLE RIGHT
zL LOWER CENTRE TO UPPER RIGHTzL LOWER LEFT TO LOWER MIDDLE RIGHTzL LOWER LEFT TO UPPER CENTRE
zL LOWER LEFT TO UPPER MIDDLE RIGHTzL LOWER MIDDLE LEFT TO UPPER CENTRE
zL LOWER MIDDLE LEFT TO UPPER MIDDLE RIGHTzL LOWER MIDDLE LEFT TO UPPER RIGHT
zL UPPER MIDDLE LEFT TO UPPER CENTREzL UPPER MIDDLE LEFT TO UPPER RIGHTmCORNER WITH DOT
mDROP-SHADOWED WHITE SQUAREmPENCILmQUADRANT CIRCULAR ARCmSEMICIRCULAR CLOCKWISE ARROWnHADOWED WHITE CIRCLE
zE SQUAREmTRIANGLEsULAR MEDIUM SHADEgSEVEN EIGHTHS BLOCKgTHREE EIGHTHS BLOCKmQUARTERS BLOCK
hRIANGULAR ONE QUARTER BLOCKcZENGEh DIVIDED BY HORIZONTAL RULEbREcIcMcObUGGAGEcNGSbYCIAN LETTER ApNoBpHoDoE
pNoGoHoIoJoKpKoLoMpMoNpNoPoQoRoSoTpHpToUoWoXoZcDIAN LETTER ApNoBoCoDoEpNoFoGoIoKoLpYoMoNpNoOoQoRoSpSoTpToUoV
oYhTRIANGULAR MARKcING FACE"

end LineScript.Text
