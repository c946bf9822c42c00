/-! The names of characters that begin with a letter from M to Q. -/

namespace LineScript.Text

/-- The names that begin with the letters M to Q, packed. -/
def namesMToQ : String :=
  "aMACRONcGEdIC WANDdNETcHAJANI ABBREVIATION SIGNjLETTER AqBArHAqCArHAqDArDAsHArHAqEqGArHAqHAqIqJArHAqKArHAqLA
qMAqNArNArYAqOqPArHAqRArRAqSAqTArHArTAsHAqUqVAkIGATURE SHRIjSECTION MARKkIGN NUKTAdJONG TILE AUTUMNnBACK
pMBOOnCHRYSANTHEMUMnEAST WINDoIGHT OF BAMBOOSwCHARACTERSxIRCLESnFIVE OF BAMBOOSvCHARACTERSwIRCLES
oOUR OF BAMBOOSvCHARACTERSwIRCLESnGREEN DRAGONnJOKERnNINE OF BAMBOOSvCHARACTERSwIRCLESoORTH WIND
nONE OF BAMBOOSuCHARACTERSvIRCLESoRCHIDnPLUMnRED DRAGONnSEVEN OF BAMBOOSwCHARACTERSxIRCLESoIX OF BAMBOOS
uCHARACTERSvIRCLESoOUTH WINDoPRINGoUMMERnTHREE OF BAMBOOSwCHARACTERSxIRCLESoWO OF BAMBOOSuCHARACTERSvIRCLES
nWEST WINDoHITE DRAGONoINTERcKASAR ANGKAiEND OF SECTIONiLETTER ApBApCApDApGApJApKApLApMApNAqGAqYApPApRApSA
pTApVApYAiPASSIMBANGiVOWEL SIGN EtItOtUcLAYALAM AU LENGTH MARKkDATE MARKlIGIT EIGHTqFIVErOURqNINEqONEqSEVEN
rIXqTHREErWOqZEROkFRACTION ONE EIGHTHxFIFTHyORTIETHxHALFxONE-HUNDRED-AND-SIXTIETHxQUARTERxSIXTEENTHxTENTH
yWENTIETHtTHREE EIGHTIETHSzQUARTERSzSIXTEENTHSzTWENTIETHSkLETTER AsAsIsRCHAIC IIsUrBAsHArCAsHAtILLU KyLzLzLL
yMyNzNyRRyYrDAsDAtHAsHAsOT REPHrEsErGAsHArHArIsIrJAsHArKAsHArLAsLAtLArMArNAsGAsNAtNAsYArOsOrPAsHArRAsRArSA
sHAsSArTAsHAsTAtHAtTArUsUrVAsEDIC ANUSVARAsOCALIC LzLLzRzRRrYAkNUMBER ONE HUNDREDvTHOUSANDrTENkSIGN ANUSVARA
qVAGRAHApCANDRABINDUqIRCULAR VIRAMAqOMBINING ANUSVARA ABOVEpPARApVERTICAL BAR VIRAMAqIRAMArSARGA
kVOWEL SIGN AAwIwUvEwEvIwIvOwOvUwUvVOCALIC LzLIC LLzLIC RzLIC RRdE AND FEMALE SIGNfSIGN
fWITH STROKE AND MALE AND FEMALE SIGNrSIGNdTESE CROSScMMOTHcNd AND WOMAN HOLDING HANDSeDANCING
eIN BUSINESS SUIT LEVITATINGhTUXEDOeWITH GUA PI MAOjTURBANdAT SIGNdDAIC AFFRICATION MARKiGEMINATION MARK
iLETTER ABqDqGqHqINqKrSAqLqMqNqPqQqRqSrHrZqTrTqZpDUSHENNApHALQApINqTpKADpUSHENNAiPUNCTUATION
iVOCALIZATION MARKdGOdICHAEAN ABBREVIATION MARK ABOVEzARK BELOWlLETTER AAYINtLEPHtYINsBETHtHETHsDALETH
tHAMEDHsFEsGHIMELtIMELsHEuTHsJAYINtHAYINsKAPHtHAPHsLAMEDHsMEMsNUNsPEsQHOPHtOPHsRESHsSADHEuMEKHtHINtSHINsTAW
tETHtHAMEDHsWAWsXAPHtOPHsYODHsZAYINtHAYINlNUMBER FIVEsONEv HUNDREDsTENtWENTYlPUNCTUATION DOTzT WITHIN DOT
zUBLE DOT WITHIN DOTxFLEURONxLINE FILLERxSTARxTWO DOTSlSIGN UDdS SHOEdTELPIECE CLOCKdUAL WHEELCHAIR
cP SYMBOL FOR LIGHTHOUSEdLE LEAFcRCHEN HEAD MARKiLETTER -ApApBApCAqHApDAqZApGApHApJApKAqHApLApMApNAqGAqYApPA
qHApRApSAqHApTAqHAqSArHApWApYApZAqHAiMARK SHADiSIGN ANUSVARAnCANDRABINDUjUBJOINED LETTER AzBAzCAzCHAzDAzDZA
zGAzHAzJAzKAzKHAzLAzMAzNAzNGAzNYAzPAzPHAzRAzSAzSHAzTAzTHAzTSAzTSHAzWAzYAzZAzZHAiVOWEL SIGN AAtEtItOtU
dRIAGE SYMBOLdTIAL ARTS UNIFORMcSARAM GONDI DIGIT EIGHTuFIVEvOURuNINEuONEuSEVENvIXuTHREEvWOuZEROoLETTER AwA
wIwUvBAwHAvCAwHAvDAwDAxHAwHAvEvGAwHAvHAvIwIvJAwHAwNYAvKAwHAwSSAvLAwLAvMAvNAwGAwNAwYAvOvPAwHAvRAvSAwHAwSAvTA
wHAwRAwTAxHAvUwUvVAvYAoRA-KARApEPHAoSIGN ANUSVARAtCANDRAtHALANTAtNUKTAtVISARGAoVIRAMApOWEL SIGN AAzAIzAUzEzI
zIIzOzUzUUzVOCALIC RdCULINE ORDINAL INDICATORdK WORK SYMBOLdU MARKcTE DRINKdHEMATICAL BOLD CAPITAL Az ALPHA
z Bz BETAz Cz CHIz Dz DELTAz DIGAMMAz Ez EPSILONz ETAz Fz Gz GAMMAz Hz Iz IOTAz Jz Kz KAPPAz Lz LAMDAz Mz MU
z Nz NUz Oz OMEGAz OMICRONz Pz PHIz PIz PSIz Qz Rz RHOz Sz SIGMAz Tz TAUz THETAz THETA SYMBOLz Uz UPSILONz V
z Wz Xz XIz Yz Zz ZETAsDIGIT EIGHTyFIVEzOURyNINEyONEySEVENzIXyTHREEzWOyZEROsEPSILON SYMBOLsFRAKTUR CAPITAL A
z CAPITAL Bz CAPITAL Cz CAPITAL Dz CAPITAL Ez CAPITAL Fz CAPITAL Gz CAPITAL Hz CAPITAL Iz CAPITAL J
z CAPITAL Kz CAPITAL Lz CAPITAL Mz CAPITAL Nz CAPITAL Oz CAPITAL Pz CAPITAL Qz CAPITAL Rz CAPITAL S
z CAPITAL Tz CAPITAL Uz CAPITAL Vz CAPITAL Wz CAPITAL Xz CAPITAL Yz CAPITAL Zz SMALL Az SMALL Bz SMALL C
z SMALL Dz SMALL Ez SMALL Fz SMALL Gz SMALL Hz SMALL Iz SMALL Jz SMALL Kz SMALL Lz SMALL Mz SMALL Nz SMALL O
z SMALL Pz SMALL Qz SMALL Rz SMALL Sz SMALL Tz SMALL Uz SMALL Vz SMALL Wz SMALL Xz SMALL Yz SMALL Z
sITALIC CAPITAL AzCAPITAL ALPHAzCAPITAL BzCAPITAL BETAzCAPITAL CzCAPITAL CHIzCAPITAL DzCAPITAL DELTA
zCAPITAL EzCAPITAL EPSILONzCAPITAL ETAzCAPITAL FzCAPITAL GzCAPITAL GAMMAzCAPITAL HzCAPITAL IzCAPITAL IOTA
zCAPITAL JzCAPITAL KzCAPITAL KAPPAzCAPITAL LzCAPITAL LAMDAzCAPITAL MzCAPITAL MUzCAPITAL NzCAPITAL NU
zCAPITAL OzCAPITAL OMEGAzCAPITAL OMICRONzCAPITAL PzCAPITAL PHIzCAPITAL PIzCAPITAL PSIzCAPITAL QzCAPITAL R
zCAPITAL RHOzCAPITAL SzCAPITAL SIGMAzCAPITAL TzCAPITAL TAUzCAPITAL THETAzCAPITAL THETA SYMBOLzCAPITAL U
zCAPITAL UPSILONzCAPITAL VzCAPITAL WzCAPITAL XzCAPITAL XIzCAPITAL YzCAPITAL ZzCAPITAL ZETAzEPSILON SYMBOL
zKAPPA SYMBOLzNABLAzPARTIAL DIFFERENTIALzPHI SYMBOLzPI SYMBOLzRHO SYMBOLzSMALL AzSMALL ALPHAzSMALL B
zSMALL BETAzSMALL CzSMALL CHIzSMALL DzSMALL DELTAzSMALL EzSMALL EPSILONzSMALL ETAzSMALL FzSMALL FINAL SIGMA
zSMALL GzSMALL GAMMAzSMALL HzSMALL IzSMALL IOTAzSMALL JzSMALL KzSMALL KAPPAzSMALL LzSMALL LAMDAzSMALL M
zSMALL MUzSMALL NzSMALL NUzSMALL OzSMALL OMEGAzSMALL OMICRONzSMALL PzSMALL PHIzSMALL PIzSMALL PSIzSMALL Q
zSMALL RzSMALL RHOzSMALL SzSMALL SIGMAzSMALL TzSMALL TAUzSMALL THETAzSMALL UzSMALL UPSILONzSMALL VzSMALL W
zSMALL XzSMALL XIzSMALL YzSMALL ZzSMALL ZETAzTHETA SYMBOLsKAPPA SYMBOLsNABLAsPARTIAL DIFFERENTIALtHI SYMBOL
tI SYMBOLsRHO SYMBOLsSCRIPT CAPITAL AzCAPITAL BzCAPITAL CzCAPITAL DzCAPITAL EzCAPITAL FzCAPITAL GzCAPITAL H
zCAPITAL IzCAPITAL JzCAPITAL KzCAPITAL LzCAPITAL MzCAPITAL NzCAPITAL OzCAPITAL PzCAPITAL QzCAPITAL R
zCAPITAL SzCAPITAL TzCAPITAL UzCAPITAL VzCAPITAL WzCAPITAL XzCAPITAL YzCAPITAL ZzSMALL AzSMALL BzSMALL C
zSMALL DzSMALL EzSMALL FzSMALL GzSMALL HzSMALL IzSMALL JzSMALL KzSMALL LzSMALL MzSMALL NzSMALL OzSMALL P
zSMALL QzSMALL RzSMALL SzSMALL TzSMALL UzSMALL VzSMALL WzSMALL XzSMALL YzSMALL ZtMALL AzLPHAyBzETAyCzHIyD
zELTAzIGAMMAyEzPSILONzTAyFzINAL SIGMAyGzAMMAyHyIzOTAyJyKzAPPAyLzAMDAyMzUyNzUyOzMEGAzMICRONyPzHIzIzSIyQyRzHO
ySzIGMAyTzAUzHETAyUzPSILONyVyWyXzIyYyZzETAsTHETA SYMBOLnDOUBLE-STRUCK CAPITAL AzK CAPITAL BzK CAPITAL D
zK CAPITAL EzK CAPITAL FzK CAPITAL GzK CAPITAL IzK CAPITAL JzK CAPITAL KzK CAPITAL LzK CAPITAL MzK CAPITAL O
zK CAPITAL SzK CAPITAL TzK CAPITAL UzK CAPITAL VzK CAPITAL WzK CAPITAL XzK CAPITAL YzK DIGIT EIGHT
zK DIGIT FIVEzK DIGIT FOURzK DIGIT NINEzK DIGIT ONEzK DIGIT SEVENzK DIGIT SIXzK DIGIT THREEzK DIGIT TWO
zK DIGIT ZEROzK SMALL AzK SMALL BzK SMALL CzK SMALL DzK SMALL EzK SMALL FzK SMALL GzK SMALL HzK SMALL I
zK SMALL JzK SMALL KzK SMALL LzK SMALL MzK SMALL NzK SMALL OzK SMALL PzK SMALL QzK SMALL RzK SMALL S
zK SMALL TzK SMALL UzK SMALL VzK SMALL WzK SMALL XzK SMALL YzK SMALL ZnFALLING DIAGONALoRAKTUR CAPITAL A
zTAL BzTAL DzTAL EzTAL FzTAL GzTAL JzTAL KzTAL LzTAL MzTAL NzTAL OzTAL PzTAL QzTAL SzTAL TzTAL UzTAL VzTAL W
zTAL XzTAL YvSMALL AzL BzL CzL DzL EzL FzL GzL HzL IzL JzL KzL LzL MzL NzL OzL PzL QzL RzL SzL TzL UzL VzL W
zL XzL YzL ZnITALIC CAPITAL AzAL ALPHAzAL BzAL BETAzAL CzAL CHIzAL DzAL DELTAzAL EzAL EPSILONzAL ETAzAL F
zAL GzAL GAMMAzAL HzAL IzAL IOTAzAL JzAL KzAL KAPPAzAL LzAL LAMDAzAL MzAL MUzAL NzAL NUzAL OzAL OMEGA
zAL OMICRONzAL PzAL PHIzAL PIzAL PSIzAL QzAL RzAL RHOzAL SzAL SIGMAzAL TzAL TAUzAL THETAzAL THETA SYMBOL
zAL UzAL UPSILONzAL VzAL WzAL XzAL XIzAL YzAL ZzAL ZETAuEPSILON SYMBOLuKAPPA SYMBOLuNABLA
uPARTIAL DIFFERENTIALvHI SYMBOLvI SYMBOLuRHO SYMBOLuSMALL Az ALPHAz Bz BETAz Cz CHIz Dz DELTAz DOTLESS I
z DOTLESS Jz Ez EPSILONz ETAz Fz FINAL SIGMAz Gz GAMMAz Iz IOTAz Jz Kz KAPPAz Lz LAMDAz Mz MUz Nz NUz O
z OMEGAz OMICRONz Pz PHIz PIz PSIz Qz Rz RHOz Sz SIGMAz Tz TAUz THETAz Uz UPSILONz Vz Wz Xz XIz Yz Zz ZETA
uTHETA SYMBOLnLEFT ANGLE BRACKETsDOUBLE ANGLE BRACKETsFLATTENED PARENTHESISsWHITE SQUARE BRACKET
yTORTOISE SHELL BRACKETnMONOSPACE CAPITAL AzPITAL BzPITAL CzPITAL DzPITAL EzPITAL FzPITAL GzPITAL HzPITAL I
zPITAL JzPITAL KzPITAL LzPITAL MzPITAL NzPITAL OzPITAL PzPITAL QzPITAL RzPITAL SzPITAL TzPITAL UzPITAL V
zPITAL WzPITAL XzPITAL YzPITAL ZxDIGIT EIGHTzGIT FIVEzGIT FOURzGIT NINEzGIT ONEzGIT SEVENzGIT SIXzGIT THREE
zGIT TWOzGIT ZEROxSMALL AzALL BzALL CzALL DzALL EzALL FzALL GzALL HzALL IzALL JzALL KzALL LzALL MzALL N
zALL OzALL PzALL QzALL RzALL SzALL TzALL UzALL VzALL WzALL XzALL YzALL ZnRIGHT ANGLE BRACKET
tDOUBLE ANGLE BRACKETtFLATTENED PARENTHESIStWHITE SQUARE BRACKETzTORTOISE SHELL BRACKETpSING DIAGONAL
nSANS-SERIF BOLD CAPITAL AzOLD CAPITAL ALPHAzOLD CAPITAL BzOLD CAPITAL BETAzOLD CAPITAL CzOLD CAPITAL CHI
zOLD CAPITAL DzOLD CAPITAL DELTAzOLD CAPITAL EzOLD CAPITAL EPSILONzOLD CAPITAL ETAzOLD CAPITAL F
zOLD CAPITAL GzOLD CAPITAL GAMMAzOLD CAPITAL HzOLD CAPITAL IzOLD CAPITAL IOTAzOLD CAPITAL JzOLD CAPITAL K
zOLD CAPITAL KAPPAzOLD CAPITAL LzOLD CAPITAL LAMDAzOLD CAPITAL MzOLD CAPITAL MUzOLD CAPITAL NzOLD CAPITAL NU
zOLD CAPITAL OzOLD CAPITAL OMEGAzOLD CAPITAL OMICRONzOLD CAPITAL PzOLD CAPITAL PHIzOLD CAPITAL PI
zOLD CAPITAL PSIzOLD CAPITAL QzOLD CAPITAL RzOLD CAPITAL RHOzOLD CAPITAL SzOLD CAPITAL SIGMAzOLD CAPITAL T
zOLD CAPITAL TAUzOLD CAPITAL THETAzOLD CAPITAL THETA SYMBOLzOLD CAPITAL UzOLD CAPITAL UPSILONzOLD CAPITAL V
zOLD CAPITAL WzOLD CAPITAL XzOLD CAPITAL XIzOLD CAPITAL YzOLD CAPITAL ZzOLD CAPITAL ZETAzOLD DIGIT EIGHT
zOLD DIGIT FIVEzOLD DIGIT FOURzOLD DIGIT NINEzOLD DIGIT ONEzOLD DIGIT SEVENzOLD DIGIT SIXzOLD DIGIT THREE
zOLD DIGIT TWOzOLD DIGIT ZEROzOLD EPSILON SYMBOLzOLD ITALIC CAPITAL AzOLD ITALIC CAPITAL ALPHA
zOLD ITALIC CAPITAL BzOLD ITALIC CAPITAL BETAzOLD ITALIC CAPITAL CzOLD ITALIC CAPITAL CHI
zOLD ITALIC CAPITAL DzOLD ITALIC CAPITAL DELTAzOLD ITALIC CAPITAL EzOLD ITALIC CAPITAL EPSILON
zOLD ITALIC CAPITAL ETAzOLD ITALIC CAPITAL FzOLD ITALIC CAPITAL GzOLD ITALIC CAPITAL GAMMA
zOLD ITALIC CAPITAL HzOLD ITALIC CAPITAL IzOLD ITALIC CAPITAL IOTAzOLD ITALIC CAPITAL JzOLD ITALIC CAPITAL K
zOLD ITALIC CAPITAL KAPPAzOLD ITALIC CAPITAL LzOLD ITALIC CAPITAL LAMDAzOLD ITALIC CAPITAL M
zOLD ITALIC CAPITAL MUzOLD ITALIC CAPITAL NzOLD ITALIC CAPITAL NUzOLD ITALIC CAPITAL O
zOLD ITALIC CAPITAL OMEGAzOLD ITALIC CAPITAL OMICRONzOLD ITALIC CAPITAL PzOLD ITALIC CAPITAL PHI
zOLD ITALIC CAPITAL PIzOLD ITALIC CAPITAL PSIzOLD ITALIC CAPITAL QzOLD ITALIC CAPITAL R
zOLD ITALIC CAPITAL RHOzOLD ITALIC CAPITAL SzOLD ITALIC CAPITAL SIGMAzOLD ITALIC CAPITAL T
zOLD ITALIC CAPITAL TAUzOLD ITALIC CAPITAL THETAzOLD ITALIC CAPITAL THETA SYMBOLzOLD ITALIC CAPITAL U
zOLD ITALIC CAPITAL UPSILONzOLD ITALIC CAPITAL VzOLD ITALIC CAPITAL WzOLD ITALIC CAPITAL X
zOLD ITALIC CAPITAL XIzOLD ITALIC CAPITAL YzOLD ITALIC CAPITAL ZzOLD ITALIC CAPITAL ZETA
zOLD ITALIC EPSILON SYMBOLzOLD ITALIC KAPPA SYMBOLzOLD ITALIC NABLAzOLD ITALIC PARTIAL DIFFERENTIAL
zOLD ITALIC PHI SYMBOLzOLD ITALIC PI SYMBOLzOLD ITALIC RHO SYMBOLzOLD ITALIC SMALL AzOLD ITALIC SMALL ALPHA
zOLD ITALIC SMALL BzOLD ITALIC SMALL BETAzOLD ITALIC SMALL CzOLD ITALIC SMALL CHIzOLD ITALIC SMALL D
zOLD ITALIC SMALL DELTAzOLD ITALIC SMALL EzOLD ITALIC SMALL EPSILONzOLD ITALIC SMALL ETAzOLD ITALIC SMALL F
zOLD ITALIC SMALL FINAL SIGMAzOLD ITALIC SMALL GzOLD ITALIC SMALL GAMMAzOLD ITALIC SMALL H
zOLD ITALIC SMALL IzOLD ITALIC SMALL IOTAzOLD ITALIC SMALL JzOLD ITALIC SMALL KzOLD ITALIC SMALL KAPPA
zOLD ITALIC SMALL LzOLD ITALIC SMALL LAMDAzOLD ITALIC SMALL MzOLD ITALIC SMALL MUzOLD ITALIC SMALL N
zOLD ITALIC SMALL NUzOLD ITALIC SMALL OzOLD ITALIC SMALL OMEGAzOLD ITALIC SMALL OMICRONzOLD ITALIC SMALL P
zOLD ITALIC SMALL PHIzOLD ITALIC SMALL PIzOLD ITALIC SMALL PSIzOLD ITALIC SMALL QzOLD ITALIC SMALL R
zOLD ITALIC SMALL RHOzOLD ITALIC SMALL SzOLD ITALIC SMALL SIGMAzOLD ITALIC SMALL TzOLD ITALIC SMALL TAU
zOLD ITALIC SMALL THETAzOLD ITALIC SMALL UzOLD ITALIC SMALL UPSILONzOLD ITALIC SMALL VzOLD ITALIC SMALL W
zOLD ITALIC SMALL XzOLD ITALIC SMALL XIzOLD ITALIC SMALL YzOLD ITALIC SMALL ZzOLD ITALIC SMALL ZETA
zOLD ITALIC THETA SYMBOLzOLD KAPPA SYMBOLzOLD NABLAzOLD PARTIAL DIFFERENTIALzOLD PHI SYMBOLzOLD PI SYMBOL
zOLD RHO SYMBOLzOLD SMALL AzOLD SMALL ALPHAzOLD SMALL BzOLD SMALL BETAzOLD SMALL CzOLD SMALL CHIzOLD SMALL D
zOLD SMALL DELTAzOLD SMALL EzOLD SMALL EPSILONzOLD SMALL ETAzOLD SMALL FzOLD SMALL FINAL SIGMAzOLD SMALL G
zOLD SMALL GAMMAzOLD SMALL HzOLD SMALL IzOLD SMALL IOTAzOLD SMALL JzOLD SMALL KzOLD SMALL KAPPAzOLD SMALL L
zOLD SMALL LAMDAzOLD SMALL MzOLD SMALL MUzOLD SMALL NzOLD SMALL NUzOLD SMALL OzOLD SMALL OMEGA
zOLD SMALL OMICRONzOLD SMALL PzOLD SMALL PHIzOLD SMALL PIzOLD SMALL PSIzOLD SMALL QzOLD SMALL R
zOLD SMALL RHOzOLD SMALL SzOLD SMALL SIGMAzOLD SMALL TzOLD SMALL TAUzOLD SMALL THETAzOLD SMALL U
zOLD SMALL UPSILONzOLD SMALL VzOLD SMALL WzOLD SMALL XzOLD SMALL XIzOLD SMALL YzOLD SMALL ZzOLD SMALL ZETA
zOLD THETA SYMBOLyCAPITAL AzAPITAL BzAPITAL CzAPITAL DzAPITAL EzAPITAL FzAPITAL GzAPITAL HzAPITAL IzAPITAL J
zAPITAL KzAPITAL LzAPITAL MzAPITAL NzAPITAL OzAPITAL PzAPITAL QzAPITAL RzAPITAL SzAPITAL TzAPITAL UzAPITAL V
zAPITAL WzAPITAL XzAPITAL YzAPITAL ZyDIGIT EIGHTzIGIT FIVEzIGIT FOURzIGIT NINEzIGIT ONEzIGIT SEVENzIGIT SIX
zIGIT THREEzIGIT TWOzIGIT ZEROyITALIC CAPITAL AzTALIC CAPITAL BzTALIC CAPITAL CzTALIC CAPITAL D
zTALIC CAPITAL EzTALIC CAPITAL FzTALIC CAPITAL GzTALIC CAPITAL HzTALIC CAPITAL IzTALIC CAPITAL J
zTALIC CAPITAL KzTALIC CAPITAL LzTALIC CAPITAL MzTALIC CAPITAL NzTALIC CAPITAL OzTALIC CAPITAL P
zTALIC CAPITAL QzTALIC CAPITAL RzTALIC CAPITAL SzTALIC CAPITAL TzTALIC CAPITAL UzTALIC CAPITAL V
zTALIC CAPITAL WzTALIC CAPITAL XzTALIC CAPITAL YzTALIC CAPITAL ZzTALIC SMALL AzTALIC SMALL BzTALIC SMALL C
zTALIC SMALL DzTALIC SMALL EzTALIC SMALL FzTALIC SMALL GzTALIC SMALL HzTALIC SMALL IzTALIC SMALL J
zTALIC SMALL KzTALIC SMALL LzTALIC SMALL MzTALIC SMALL NzTALIC SMALL OzTALIC SMALL PzTALIC SMALL Q
zTALIC SMALL RzTALIC SMALL SzTALIC SMALL TzTALIC SMALL UzTALIC SMALL VzTALIC SMALL WzTALIC SMALL X
zTALIC SMALL YzTALIC SMALL ZySMALL AzMALL BzMALL CzMALL DzMALL EzMALL FzMALL GzMALL HzMALL IzMALL JzMALL K
zMALL LzMALL MzMALL NzMALL OzMALL PzMALL QzMALL RzMALL SzMALL TzMALL UzMALL VzMALL WzMALL XzMALL YzMALL Z
oCRIPT CAPITAL AzAL CzAL DzAL GzAL JzAL KzAL NzAL OzAL PzAL QzAL SzAL TzAL UzAL VzAL WzAL XzAL YzAL Z
uSMALL Az Bz Cz Dz Fz Hz Iz Jz Kz Lz Mz Nz Pz Qz Rz Sz Tz Uz Vz Wz Xz Yz ZcXIMIZEcYAN NUMERAL EIGHTtEEN
pLEVENoFIFTEENqVEpOURsTEENoNINEsTEENoONEoSEVENtTEENpIXrTEENoTENpHIRTEENqREEpWELVEqOoZERObEASURED ANGLE
o OPENING LEFTpWITH OPEN ARM ENDING IN ARROW POINTING DOWN AND LEFT
zARM ENDING IN ARROW POINTING DOWN AND RIGHTzARM ENDING IN ARROW POINTING LEFT AND DOWN
zARM ENDING IN ARROW POINTING LEFT AND UPzARM ENDING IN ARROW POINTING RIGHT AND DOWN
zARM ENDING IN ARROW POINTING RIGHT AND UPzARM ENDING IN ARROW POINTING UP AND LEFT
zARM ENDING IN ARROW POINTING UP AND RIGHTjBYjRIGHT ANGLE WITH DOTdT ON BONEcCHANICAL ARMlLEG
cDEFAIDRIN CAPITAL LETTER AzR AIzR ATIUzR BzR CzR DzR EzR FzR GzR HzR HPzR IzR JzR KzR KPzR LzR MzR NzR NG
zR NYzR OzR OEzR PzR QzR RzR SzR TzR UzR VzR WzR XzR YzR YUzR ZnOMMAmDIGIT EIGHTsFIVEtOURsNINEsONE
v ALTERNATE FORMsSEVENtIXsTHREEx ALTERNATE FORMtWOv ALTERNATE FORMsZEROmEXCLAMATION OHmFULL STOP
mNUMBER EIGHTEENuLEVENtFIFTEENuOURTEENtNINETEENtSEVENTEENuIXTEENtTENuHIRTEENuWELVEmSMALL LETTER AzAIzATIUzB
zCzDzEzFzGzHzHPzIzJzKzKPzLzMzNzNGzNYzOzOEzPzQzRzSzTzUzVzWzXzYzYUzZnYMBOL AIVAdIEVAL COMMAjEXCLAMATION MARK
jQUESTION MARKeUM BLACK CIRCLEiOLD WHITE CIRCLEhEIGHT POINTED BLACK STARnSPOKED ASTERISK
hFIVE SPOKED ASTERISKiLATTENED LEFT PARENTHESIS ORNAMENTrRIGHT PARENTHESIS ORNAMENTiOUR POINTED BLACK STAR
uPINWHEEL STARhGREEK CROSShLEFT CURLY BRACKET ORNAMENTmPARENTHESIS ORNAMENTl-POINTING ANGLE BRACKET ORNAMENT
hMATHEMATICAL SPACEhRIGHT CURLY BRACKET ORNAMENTnPARENTHESIS ORNAMENTm-POINTING ANGLE BRACKET ORNAMENT
hSALTIREiHADEiIX POINTED BLACK STARlSPOKED ASTERISKiMALL WHITE CIRCLEhTHREE POINTED BLACK STARvPINWHEEL STAR
hVERTICAL BARhWHITE CIRCLEnSQUAREcETEI MAYEK AHANG KHUDAMoNJIoPUN IYEKnCHEIKHANtEInDIGIT EIGHTtFIVEuOURtNINE
tONEtSEVENuIXtTHREEuWOtZEROnLETTER ATIYAuBAvHAMuCHAwILuDDAwHAvHOUvILuEuGHOUvOKuHUKuIv LONSUMuJHAMvILuKHOUvOK
x LONSUMuLAIx LONSUMuMITx LONSUMuNAw LONSUMvGOUy LONSUMvNAvYAuOuPAw LONSUMvHAMuRAIuSAMvHAvSAuTHOUvILx LONSUM
vTAwHAuUNuWAIuYANGoUM IYEKnSYLLABLE REPETITION MARKnVIRAMAoOWEL SIGN AAIzAUzNAPzUyCHEINAPyIIzNAPyNUNGyONAP
ySOUNAPyUNAPzUyVISARGAyYENAPnWORD REPETITION MARKcLONdTING FACEcMO
cNDE KIKAKUI COMBINING NUMBER HUNDRED THOUSANDSzUMBER HUNDREDSzUMBER MILLIONSzUMBER TEENS
zUMBER TEN THOUSANDSzUMBER TENSzUMBER THOUSANDSoDIGIT EIGHTuFIVEvOURuNINEuONEuSEVENvIXuTHREEvWO
oSYLLABLE M001 KIz02 KAz03 KUz04 WIz05 WAz06 WUz07 MINz08 MANz09 MUNz10 BIz11 BAz12 BUz13 Iz14 Az15 Uz16 DI
z17 DAz18 DUz19 SIz20 SAz21 SUz22 TIz23 TAz24 TUz25 LIz26 LAz27 LUz28 JIz29 JAz30 JUz31 YIz32 YAz33 YUz34 FI
z35 FAz36 FUz37 NINz38 NANz39 NUNz40 HEEz41 HAz42 HOOz43 NGGAz44 KPEEz45 WOz46 HUANz47 MBEEz48 KOz49 WVA
z50 PUz51 PEz52 HENz53 HINz54 LOOz55 TEz56 GBAz57 NGONz58 NYANz59 MENz60 NYONz61 WVIz62 MBAz63 JOz64 NDO
z65 KEEz66 POz67 NDOOz68 PIz69 TOz70 GBOz71 GBOOz72 MBEz73 LEz74 KPUz75 FEz76 KOOz77 VOz78 FEEz79 SOz80 YE
z81 PEEz82 NGGUz83 HEEIz84 LEEz85 VEz86 LONG NGGEz87 HUNz88 FOz89 DEEz90 NGGIz91 TEEz92 KPAz93 GBEEz94 MON
z95 KEz96 HEz97 BEz98 NYENz99 PAy100 Ez01 FANz02 POOz03 BOOz04 TOOz05 LONG MBOOz06 LONG NGGOOz07 GBEz08 KPE
z09 YEEz10 LONG LEz11 GAz12 KPOOz13 JEz14 WOOz15 NGGEEz16 SEz17 NENz18 WEz19 NDEz20 NGGOz21 YOz22 MBUz23 NDI
z24 GBIz25 NDUz26 WEEz27 NGGUAz28 HOOUz29 NDAz30 HANz31 INz32 KPIz33 FOOz34 NJOOz35 INz36 SOOz37 EIz38 BO
z39 WVEz40 HOz41 YOOz42 LONG MBOz43 WEIz44 VOOz45 MBIz46 NGGEz47 Oz48 GBUz49 NJEEz50 BEEz51 VUz52 NJAz53 LO
z54 MUANz55 GIz56 NGGOOz57 JEEz58 KPOz59 NGGAAz60 JOOz61 LONG MBEz62 SEEz63 EEz64 NYINz65 OOz66 GUEIz67 GUAN
z68 GUz69 NONz70 NYUNz71 RAz72 MBOOz73 VEEz74 MBOz75 LONG JOz76 HIz77 NGUANz78 ENz79 KUAz80 DOOz81 DOz82 VI
z83 LONG NGGOz84 NGENz85 VAz86 HUz87 MBUUz88 MBEEz89 MUENz90 GEEz91 NDEEz92 NJUz93 HONz94 WUIz95 ANz96 SIA
z97 FUAdORAH WITH NINE BRANCHESdS SYMBOLcRCURYdOITIC CURSIVE FRACTION EIGHT TWELFTHSz ELEVEN TWELFTHS
z FIVE TWELFTHSz FOUR TWELFTHSz NINE TWELFTHSz ONE HALFz ONE TWELFTHz SEVEN TWELFTHSz SIX TWELFTHS
z TEN TWELFTHSz THREE TWELFTHSz TWO TWELFTHSrLETTER AzRCHAIC SAyBAyDAyEyHHAyIyKAzHAyLAyMAyNAzEyOyPAyQAyRAySA
zEyTAzEzOyWAyYAsOGOGRAM IMNz RMTrNUMBER EIGHTzIGHT HUNDREDzIGHT HUNDRED THOUSANDzIGHT THOUSAND
zIGHTY THOUSANDyFIFTYzIFTY THOUSANDzIVEzIVE HUNDREDzIVE HUNDRED THOUSANDzIVE THOUSANDzORTYzORTY THOUSANDzOUR
zOUR HUNDREDzOUR HUNDRED THOUSANDzOUR THOUSANDyNINEzINE HUNDREDzINE HUNDRED THOUSANDzINE THOUSAND
zINETY THOUSANDyONEzNE HUNDREDzNE HUNDRED THOUSANDzNE THOUSANDySEVENzEVEN HUNDREDzEVEN HUNDRED THOUSAND
zEVEN THOUSANDzEVENTYzEVENTY THOUSANDzIXzIX HUNDREDzIX HUNDRED THOUSANDzIX THOUSANDzIXTYzIXTY THOUSANDyTEN
zEN THOUSANDzHIRTYzHIRTY THOUSANDzHREEzHREE HUNDREDzHREE HUNDRED THOUSANDzHREE THOUSANDzWENTYzWENTY THOUSAND
zWOzWO HUNDREDzWO HUNDRED THOUSANDzWO THOUSANDjHIEROGLYPHIC LETTER AzTER BAzTER BA-2zTER DAzTER EzTER HHA
zTER IzTER KAzTER KHAzTER LAzTER MAzTER NAzTER NA-2zTER NEzTER NE-2zTER OzTER PAzTER QAzTER RAzTER RA-2
zTER SAzTER SA-2zTER SEzTER TAzTER TA-2zTER TEzTER TE-2zTER TOzTER WAzTER YAwSYMBOL VIDJzBOL VIDJ-2dPERSON
cSSAGE WAITINGcTRICAL BREVEjLONG OVER SHORTtTWO SHORTSjPENTASEMEjSHORT OVER LONGjTETRASEMEkRISEME
kWO SHORTS JOINEDuOVER LONGeObIAO LETTER AHnRCHAIC MAuNAvGAuZZAmBAnRImDAnDAnLHApYAnZAoHAoYIoZAmFAmGAnHAoHA
mHAnHAmKAmLAnHAoYAnYAmMAnHAmNAoSALIZATIONnGAoHAnHAnNAoHAnYAoHAmPAnLAmQAnGAmREFORMED TONE-1z-2z-4z-5z-6z-8
wSHAnTEmSAnHAnSAnYImTAnEnLHApYAnONE-2r3r4r5r6r7r8nSAoEoHAoSAnTAmVAnFAmWAmXAmYI DZHApKApNNApPApTAqSArHAqTAmZA
nHAnSAoHAnZAoSApYAoYAfSIGN ASPIRATIONkCONSONANT MODIFIER BARkREFORMED ASPIRATIONtVOICINGfTONE ABOVEkBELOW
kRIGHTkTOP RIGHTfVOWEL SIGN ArArEsErHHrIrNsGrUqErArIrNsGrRsRqIrAsNtGrErGrIrNGrOsNGrUqNrGqOrERsYrGrOrU
qROUNDED ERzRRqUrAsNtGrEIrIrNGrOGrUqVWqWrOqYrIrUIcCR DASH SYMBOLfON US SYMBOLeO SIGNfBEfPHONEfSCOPEcDDLE DOT
hTHIRD WHITE RIGHT POINTING INDEXdLINE HORIZONTAL ELLIPSIScLITARY HELMETjMEDALdKY WAYdL SIGNcNIBUSeDISCeMIZE
dUS SIGNk IN TRIANGLElWITH COMMA ABOVEqDOT BELOWqFALLING DOTSqRISING DOTSgTILDEf-OR-PLUS SIGNdYcRRORg BALL
bMSPbOBILE PHONEm OFFnWITH RIGHTWARDS ARROW AT LEFTcDELSeRN PENTATHLONdI ABBREVIATION SIGNfDANDAgIGIT EIGHT
lFIVEmOURlNINElONElSEVENmIXlTHREEmWOlZEROgOUBLE DANDAfLETTER AnAnInUmBAnHAmCAnHAmDAnDAoHAnHAmEmGAnHAmHAmInI
mJAnHAmKAnHAmLAnLAmMAmNAnGAnNAnYAmOmPAnHAmRAmSAnHAnSAmTAnHAnTAoHAmUnUmVAnOCALIC LvLuRvRmYAfSIGN ANUSVARA
lRDHACANDRAkHUVAkVIRAMAmSARGAfVOWEL SIGN AArIrUqEqIrIqOqUrUqVOCALIC LzLyRzReFIER BREVE WITH INVERTED BREVE
jLETTER ACUTE ACCENTrLVEOLAR CLICKrPOSTROPHEqBEGIN HIGH TONEwLOW TONErILABIAL CLICKqCAPITAL AzEyBzARRED ByC
yDyEyFyGyHz WITH STROKEyIyJyKyLyMyNyOzUyPyQyRzEVERSED EzEVERSED NyTyUyVyWrENTRED LEFT HALF RING
yRIGHT HALF RINGrHINESE TONE YANG PINGzONE YANG QUzONE YANG RUzONE YANG SHANGzONE YIN PINGzONE YIN QU
zONE YIN RUzONE YIN SHANGrIRCUMFLEX ACCENTrOLONrROSS ACCENTrYRILLIC ENzHARD SIGNzSOFT SIGNqDENTAL CLICK
rOT HORIZONTAL BARuSLASHuVERTICAL BARsUBLE APOSTROPHExPRIMEsWN ARROWHEADvTACKqEND HIGH TONEuLOW TONE
rXTRA-HIGH DOTTED LEFT-STEM TONE BARzH DOTTED TONE BARzH LEFT-STEM TONE BARzH TONE BAR
wLOW DOTTED LEFT-STEM TONE BARz DOTTED TONE BARz LEFT-STEM TONE BARz TONE BARqGEORGIAN NARrLOTTAL STOP
zTOP WITH STROKErRAVE ACCENTqHALF TRIANGULAR COLONrIGH DOTTED LEFT-STEM TONE BARzED TONE BAR
vLEFT-STEM TONE BARvTONE BARqLATERAL CLICKrEFT ARROWHEADvHALF RINGvTACKrOW ACUTE ACCENTuCIRCUMFLEX ACCENT
uDOTTED LEFT-STEM TONE BARzD TONE BARwWN ARROWHEADuGRAVE ACCENTuINVERTED EXCLAMATION MARKuLEFT ARROW
zARROWHEADy-STEM TONE BARuMACRONuRIGHT ARROWHEADwNGuTILDEvONE BARuUP ARROWHEADuVERTICAL LINE
tER RIGHT CORNER ANGLEqMACRONrID DOTTED LEFT-STEM TONE BARzD TONE BARuLEFT-STEM TONE BARuTONE BAR
tDLE DOUBLE ACUTE ACCENTzUBLE GRAVE ACCENTxGRAVE ACCENTsNUS SIGNqOPEN SHELFqPLUS SIGNrRIMEqRAISED COLON
xDOWN ARROWxEXCLAMATION MARKxINVERTED EXCLAMATION MARKxUP ARROWrETROFLEX CLICK WITH RETROFLEX HOOK
sVERSED COMMAzGLOTTAL STOPzGLOTTAL STOP WITH STROKErHOTIC HOOKrIGHT ARROWHEADwHALF RINGwTACKqSHELF
sORT EQUALS SIGNrMALL AxExINxLPHAwBx WITH HOOKxARRED OxETAxOTTOM HALF OwCx WITH CURLxAPITAL AAzITAL BzITAL G
zITAL G WITH HOOKzITAL HzITAL IzITAL I WITH STROKEzITAL INVERTED RzITAL LzITAL L WITH BELTzITAL NzITAL OE
zITAL RzITAL UzITAL YxHIxLOSED OMEGAzSED REVERSED OPEN EwDx WITH HOOKzITH HOOK AND TAILzITH TAILxELTA
yZH DIGRAPHxOTLESS J WITH STROKEzLESS J WITH STROKE AND HOOKxZ DIGRAPHzDIGRAPH WITH CURL
zDIGRAPH WITH RETROFLEX HOOKwExNGxSHxTHxZHwFxENG DIGRAPHwGx WITH HOOKxAMMAxREEK GAMMAzEK PHIwHx WITH HOOK
zITH STROKExENGzG WITH HOOKwI WITH STROKExOTAwJx WITH CROSSED-TAILwKwLx WITH BELTzITH INVERTED LAZY S
zITH MIDDLE TILDEzITH PALATAL HOOKzITH RETROFLEX HOOKzITH RETROFLEX HOOK AND BELTxEZHzH WITH RETROFLEX HOOK
xIGATURE OExS DIGRAPHxZ DIGRAPHwMx WITH HOOKwN WITH LEFT HOOKzITH RETROFLEX HOOKwOx WITH STROKExPEN EzN OwP
xHIwQwRx WITH FISHHOOKzITH TAILxAMS HORNxEVERSED EzERSED GLOTTAL STOPzERSED OPEN EwSx WITH CURLzITH HOOK
xCHWAyRIPT GxIDEWAYS UwTx WITH PALATAL HOOKzITH RETROFLEX HOOKxC DIGRAPH WITH CURLxESH DIGRAPHxHETA
xOP HALF OxS DIGRAPHzDIGRAPH WITH RETROFLEX HOOKxURNED AzNED AEzNED ALPHAzNED HzNED IzNED M
zNED M WITH LONG LEGzNED OPEN EzNED RzNED R WITH HOOKzNED R WITH LONG LEG
zNED R WITH LONG LEG AND RETROFLEX HOOKzNED VzNED WzNED YzNED Y WITH BELTwUx BARyWITH LEFT HOOKxPSILONwV
x WITH HOOKzITH RIGHT HOOKwWwXwYwZx WITH CURLzITH RETROFLEX HOOKrTRESS AND HIGH TONEzD LOW TONE
rUPERSCRIPT HALF TRIANGULAR COLONzPT TRIANGULAR COLONqTRIANGULAR COLONrURNED COMMAqUNASPIRATEDrP ARROWHEAD
tTACKrSqVERTICAL LINErOICINGqYANG DEPARTING TONE MARKrIN DEPARTING TONE MARKdULO TWO SUMcNEY BAGgWITH WINGS
f-MOUTH FACEdGOLIAN BIRGAp WITH DOUBLE ORNAMENTvORNAMENTkCOLONmMMAkDIGIT EIGHTqFIVErOURqNINEqONEqSEVENrIX
qTHREErWOqZEROlOUBLE BIRGA WITH ORNAMENTkELLIPSISkFOUR DOTSlREE VARIATION SELECTOR FOURzSELECTOR ONE
zSELECTOR THREEzSELECTOR TWOlULL STOPkINVERTED BIRGAy WITH DOUBLE ORNAMENTkLETTER AsLI GALI Az AH
z ANUSVARA ONEz BALUDAz CAz DAz DAGALGAz DAMARUz DDAz HALF Uz HALF YAz Iz INVERTED UBADAMAz KAz NGAz NNAz PA
z PHAz SSAz TAz THREE BALUDAz TTAz TTHAz UBADAMAz VISARGA ONEz ZAz ZHAsNGrBArCHAu WITH TWO DOTStIrDArEsErFA
rGArHAArIrJArKAsHArLAsHArMAtNCHU ALI GALI BHAzLI GALI CAzLI GALI CYAzLI GALI DDHAzLI GALI DHAzLI GALI GHA
zLI GALI JHAzLI GALI LHAzLI GALI NGAzLI GALI SSAzLI GALI TAzLI GALI TTAzLI GALI ZAzLI GALI ZHAyFAyIyKAyRA
yZHArNArOsErPArQArRArSAsHAsIBE ANGwCHAwDAwEwFAwGAyAwHAyAwIxYwJAwKAwPAwRAAwSHAwTAxSAwUxEwZAxHArTA
sODO ALI GALI TAz GALI ZHAxNGwBAwCHAwDAxZAwEwGAyAwHAAwIwJAxIAwKAwLONG VOWEL SIGNwMAwNIAwOxEwPAwQAwTAxSAwUxE
wWAwYAsSArUsErWArYArZAsHIsRAkMANCHU COMMArFULL STOPkNIRUGUkROTATED BIRGAx WITH DOUBLE ORNAMENTzITH ORNAMENT
kSIBE SYLLABLE BOUNDARY MARKERlWIRL BIRGAv WITH DOUBLE ORNAMENTzH ORNAMENTkTODO SOFT HYPHEN
lRIPLE BIRGA WITH ORNAMENTlURNED SWIRL BIRGA WITH DOUBLE ORNAMENTkVOWEL SEPARATORdKEYg FACEdOGRAM FOR EARTH
nYANGoINeRAILeSTABLE SYMBOLcOD BUBBLEdN CAKEfVIEWING CEREMONYcSQUEfITOcTHER CHRISTMASdOR BOATgSCOOTER
fIZED WHEELCHAIRfWAYcUNT FUJIfAINi BICYCLISTjCABLEWAYjRAILWAYdSEf FACEgTRAPdTHcVIE CAMERAcYAIbRO DANDA
fIGIT EIGHTkFIVElOURkNINEkONEkSEVENlIXkTHREElWOkZEROfOUBLE DANDAeLETTER AlBAlCHUlDAnIlEmAlHAInOlKEAAEmHAImO
lLAnNlMAEMmIMlNGImINlOmLmOlPAmHIlRImOlSHIlTAmEKmHEAlWAlYObUCH GREATER-THANfLESS-THANcLTANI LETTER ApBAqHApCA
qHApDAqDArDArHAqHApEpGAqHApHApIpJAqJApKAqHApLApMApNAqNAqYApPAqHApRAqHAqRApSApTAqHAqTArHApUpVApYA
iSECTION MARKeIMAPfPLE MUSICAL NOTEShICATION SIGNt IN DOUBLE CIRCLExLEFT HALF CIRCLExRIGHT HALF CIRCLE
xTRIANGLEuWITH DOT ABOVEzUNDERBARpXfSETi MULTIPLICATIONjUNIONcSHROOMdIC FLAT SIGNgNATURAL SIGNgSHARP SIGN
fAL KEYBOARDq WITH JACKSiNOTEiSCOREjYMBOL ARPEGGIATO DOWNz UPpBEGIN BEAMvPHRASEvSLURvTIEqRACEtKETrEATH MARK
sVEtISv RESTpC CLEFqAESURAqIRCLE X NOTEHEADqLIMACUSsVISrUSTER NOTEHEAD BLACKzTEHEAD WHITEqODArMBINING ACCENT
zACCENT-STACCATOzAUGMENTATION DOTzBENDzDOITzDOUBLE TONGUEzDOWN BOWzFLAG-1zFLAG-2zFLAG-3zFLAG-4zFLAG-5zFLIP
zHARMONICzLOUREzMARCATOzMARCATO-STACCATOzRIPzSMEARzSNAP PIZZICATOzSPRECHGESANG STEMzSTACCATISSIMOzSTACCATO
zSTEMzTENUTOzTREMOLO-1zTREMOLO-2zTREMOLO-3zTRIPLE TONGUEzUP BOWsMON TIMEqRESCENDOrOIXqUT TIMEpDA CAPO
rL SEGNOrMPt ALLrSHED BARLINEqECRESCENDOrGREE SLASHqOUBLE BARLINEwFLATwSHARPqRUM CLEF-1z2pEIGHTH NOTEwREST
qND BEAMtOF STIMMEtPHRASEtSLURtTIEpF CLEFv OTTAVA ALTAzAVA BASSAqERMATAw BELOWqINAL BARLINEsGERED TREMOLO-1
zREMOLO-2zREMOLO-3rVE-LINE STAFFqLAT DOWNuUPqORTErUR-LINE STAFFuSTRING FRETBOARDqUSA BLACKuWHITEpG CLEF
v OTTAVA ALTAzAVA BASSAqLISSANDO DOWNzUPqRACE NOTE NO SLASHz SLASHrEGORIAN C CLEFzF CLEFpHALF NOTE
uPEDAL MARKuRESTrUPTSTIMMEpINVERTED TURNpKIEVAN C CLEFwEIGHTH NOTE STEM DOWNzHTH NOTE STEM UPxND OF PIECE
wFINAL NOTExLAT SIGNwHALF NOTEwQUARTER NOTE STEM DOWNzRTER NOTE STEM UPwRECITATIVE MARKwWHOLE NOTEqORON
pLEFT REPEAT SIGNqONGAu IMPERFECTA RESTvPERFECTA RESTpMAXIMAqEZZOqINIMAv BLACKwRESTqOON NOTEHEAD BLACK
zEAD WHITEqULTI RESTuPLE MEASURE RESTpNATURAL DOWNxUPqEBENSTIMMEqOTEHEAD BLACKqULL NOTEHEAD
pONE HUNDRED TWENTY-EIGHTH NOTEzD TWENTY-EIGHTH RESTs-LINE STAFFqRNAMENT STROKE-1zTROKE-10zTROKE-11zTROKE-2
zTROKE-3zTROKE-4zTROKE-5zTROKE-6zTROKE-7zTROKE-8zTROKE-9qTTAVA ALTAwBASSApPARENTHESIS NOTEHEADqEDAL MARK
vUP MARKrS SUBPUNCTISqIANOqLUS NOTEHEADqODATUSrRRECTUSy FLEXUSpQUARTER NOTExRESTxTONE FLATzNE SHARP
rINDICESIMA ALTAzMA BASSApREPEAT DOTSvED FIGURE-1zIGURE-2zIGURE-3rVERSE FINAL BARLINEqIGHT REPEAT SIGN
rNFORZANDOpSCANDICUSy FLEXUSqEGNOrMIBREVIS BLACKz RESTz WHITEtMINIMA BLACKz RESTz WHITEqHARP DOWNvUP
rORT BARLINEqINGLE BARLINErX-LINE STAFFtSTRING FRETBOARDsTEENTH NOTEzRESTtY-FOURTH NOTEzTH RESTqORIqQUARE B
wNOTEHEAD BLACKzEHEAD WHITEqUBITOpTEMPUS IMPERFECTUM CUM PROLATIONE IMPERFECTA
zERFECTUM CUM PROLATIONE IMPERFECTA DIMINUTION-1zERFECTUM CUM PROLATIONE IMPERFECTA DIMINUTION-2
zERFECTUM CUM PROLATIONE IMPERFECTA DIMINUTION-3zERFECTUM CUM PROLATIONE PERFECTA
wPERFECTUM CUM PROLATIONE IMPERFECTAzFECTUM CUM PROLATIONE PERFECTA
zFECTUM CUM PROLATIONE PERFECTA DIMINUTION-1qHIRTY-SECOND NOTEzOND RESTrREE-LINE STAFFqORCULUSx RESUPINUSqR
rIANGLE NOTEHEAD DOWN BLACKzOTEHEAD DOWN WHITEzOTEHEAD LEFT BLACKzOTEHEAD LEFT WHITEzOTEHEAD RIGHT BLACK
zOTEHEAD RIGHT WHITEzOTEHEAD UP BLACKzOTEHEAD UP RIGHT BLACKzOTEHEAD UP RIGHT WHITEzOTEHEAD UP WHITE
x-ROUND NOTEHEAD DOWN BLACKzOUND NOTEHEAD DOWN WHITEqURNt SLASHuUPqWO-LINE STAFFpVIRGAqOID NOTEHEAD
pWHOLE NOTEvRESTqITH FINGERNAILSpX NOTEHEADpZbVSbWbYANMAR CONSONANT SIGN MEDIAL HAzDIAL RAzDIAL WAzDIAL YA
yON MEDIAL LAzN MEDIAL MAzN MEDIAL NAxSHAN MEDIAL WAiDIGIT EIGHToFIVEpOURoNINEoONEoSEVENpIXoTHREEpWOoZERO
iLETTER AqITON RAqUpBAqHApCAqHApDAqDArHAqHApEqASTERN PWO KAREN GHWAzO KAREN NNAzO KAREN YWApGAqHAqREAT SApHA
pIqIpJAqHApKAqHAsMTI CAxHAwDDAyHAxHAwFAwGAwHAxHAwJAxHAwLLAwNAxYAwRAwSAwTTAyHAwXAwZApLAqLApMAqON BBAvEtEtJHA
tNGApNAqGAqNArYAqYApOpPAqHApRAqUMAI PALAUNG FApSAqGAW KAREN SHAqHAsN AuBAvHAuCAvHAuDAuFAuGAvHAuHAuJHAuKAvHA
uNAvNAvYAuPHAuTHAuZArWE PALAUNG CHAzNG SHAqSApTArI LAING BAzBHAzDAzDDAzDDHAzDHAzFAzGAzGHAzJAzJHAzLLAzNNAzNYA
qHAqTArHApUqUpVOCALIC LyLxRyRpWAqESTERN PWO KAREN PWAzO KAREN THApYAjOGOGRAM KHAMTI HMyOAYyQN
iMODIFIER LETTER KHAMTI REDUPLICATIONySHAN REDUPLICATIONiSHAN DIGIT EIGHTtFIVEuOURtNINEtONEtSEVENuIXtTHREE
uWOtZEROjIGN ANUSVARAoSATnDOT BELOWnKHAMTI TONE-1z3nLITTLE SECTIONnPAO KAREN TONEnRUMAI PALAUNG TONE-5
nSECTIONoHAN COUNCIL EMPHATIC TONEz TONE-2z TONE-3sSAWsTONE-2x3x5x6nTAI LAING TONE-2zNE-5nVIRAMApSARGA
nWESTERN PWO KAREN TONE-1zKAREN TONE-2zKAREN TONE-3zKAREN TONE-4zKAREN TONE-5jYMBOL AFOREMENTIONED
qITON EXCLAMATIONvONEvTWOpCOMPLETEDpGENITIVEpLOCATIVEpSHAN EXCLAMATIONuONEiTAI LAING DIGIT EIGHTyFIVEzOUR
yNINEyONEySEVENzIXyTHREEzWOyZEROjONE MARK SGAW KAREN HATHIzREN KE PHOiVOWEL SIGN AAuIvTON AzAItEu ABOVE
tGEBA KAREN ItIuItKAYAH EEzOEzUtMON IIxOtSGAW KAREN EUuHAN AAyEz ABOVEyFINAL YtTALL AAtUuUtVOCALIC LzC LL
zC RzC RRtWESTERN PWO KAREN EUzN PWO KAREN UEaN-ARY CIRCLED DOT OPERATORoPLUS OPERATORoTIMES OPERATOR
hOPRODUCTgINTERSECTIONgLOGICAL ANDoORgPRODUCTgSQUARE INTERSECTION OPERATORnUNION OPERATORhUMMATION
gTIMES OPERATORgUNIONl OPERATOR WITH DOTz PLUSgWHITE VERTICAL BARbABATAEAN CRUCIFORM NUMBER FOUR
kLETTER ALEPHsYINrBETHrDALETHrFINAL ALEPHxBETHxHExKAPHxLAMEDHxMEMxNUNxSHINxYODHrGIMELrHEtTHrKAPHrLAMEDHrMEM
rNUNrPErQOPHrRESHrSADHEtMEKHsHINrTAWsETHrWAWrYODHrZAYINkNUMBER FIVEsOURrONEu HUNDREDrTENsHREEsWENTYtOdLA
cIL POLISHdRA SIGNcKcME BADGEcNDeINAGARI HEADSTROKEmLETTER AuAuIuUtBAuHAtCAuHAtDAuDAvHAuHAtEtGAuHAtHAtIuItJA
uHAtKAuHAtLAuLAtMAtNAuGAuNAuYAtOtPAuHAtRAuRAtSAuHAuSAtTAuHAuTAvHAtUuUtVAuOCALIC RzC RRtYAmSIGN ANUSVARA
sVAGRAHArSIDDHAMrVIRAMAtSARGAmVOWEL SIGN AAyIyUxExIyIxOxPRISHTHAMATRA ExUyUxVOCALIC RzCALIC RR
cRROW NO-BREAK SPACEcTIONAL DIGIT SHAPESjPARKcUSEATED FACEcZAR AMULETbBHcSPbECKTIE
cGATED DOUBLE VERTICAL BAR DOUBLE RIGHT TURNSTILEfIVE ACKNOWLEDGEjCIRCLED DIGIT ZEROrLATIN CAPITAL LETTER A
zPITAL LETTER BzPITAL LETTER CzPITAL LETTER DzPITAL LETTER EzPITAL LETTER FzPITAL LETTER GzPITAL LETTER H
zPITAL LETTER IzPITAL LETTER JzPITAL LETTER KzPITAL LETTER LzPITAL LETTER MzPITAL LETTER NzPITAL LETTER O
zPITAL LETTER PzPITAL LETTER QzPITAL LETTER RzPITAL LETTER SzPITAL LETTER TzPITAL LETTER UzPITAL LETTER V
zPITAL LETTER WzPITAL LETTER XzPITAL LETTER YzPITAL LETTER ZrNUMBER EIGHTEENzLEVENyFIFTEENzOURTEENyNINETEEN
ySEVENTEENzIXTEENyTHIRTEENzWELVEzWENTYrSQUARErTRIANGLEjDIAGONAL CROSSsDIAMONDsMIDDLE RIGHT TO LOWER CENTRE
jSQUARED ABrCROSS MARKrICrLATIN CAPITAL LETTER AzPITAL LETTER BzPITAL LETTER CzPITAL LETTER DzPITAL LETTER E
zPITAL LETTER FzPITAL LETTER GzPITAL LETTER HzPITAL LETTER IzPITAL LETTER JzPITAL LETTER KzPITAL LETTER L
zPITAL LETTER MzPITAL LETTER NzPITAL LETTER OzPITAL LETTER PzPITAL LETTER QzPITAL LETTER RzPITAL LETTER S
zPITAL LETTER TzPITAL LETTER UzPITAL LETTER VzPITAL LETTER WzPITAL LETTER XzPITAL LETTER YzPITAL LETTER ZrPA
rQUESTION MARKrSArWCcITHER A SUBSET OF NOR EQUAL TOmPERSET OF NOR EQUAL TO
jPPROXIMATELY NOR ACTUALLY EQUAL TOiGREATER-THAN NOR EQUAL TOzEQUIVALENT TOzLESS-THANiLESS-THAN NOR EQUAL TO
zIVALENT TOwGREATER-THANcLcPTUNEh FORM TWOcRD FACEcSSUSdT WITH EGGSeING DOLLScUTEReRAL CHESS BISHOP
u ROTATED NINETY DEGREESzTED TWO HUNDRED SEVENTY DEGREESoEQUIHOPPERy ROTATED NINETY DEGREESoKING
s ROTATED NINETY DEGREESzD TWO HUNDRED SEVENTY DEGREESpNIGHTu ROTATED FORTY-FIVE DEGREESzTED NINETY DEGREES
zTED ONE HUNDRED THIRTY-FIVE DEGREESzTED THREE HUNDRED FIFTEEN DEGREESzTED TWO HUNDRED SEVENTY DEGREES
zTED TWO HUNDRED TWENTY-FIVE DEGREESoPAWNs ROTATED NINETY DEGREESzD TWO HUNDRED SEVENTY DEGREESoQUEEN
t ROTATED NINETY DEGREESzED TWO HUNDRED SEVENTY DEGREESoROOKs ROTATED NINETY DEGREES
zD TWO HUNDRED SEVENTY DEGREESoTURNED BISHOPvKINGwNIGHTvPAWNvQUEENvROOKiFACEcW LINEeMOON SYMBOLjWITH FACE
eSHEQEL SIGNeTAI LUE DIGIT EIGHTsFIVEtOURsNINEsONEsSEVENtIXsTHREEtWOsZEROmLETTER FINAL BzDzKzMzNzNGzV
tHIGH BAyDAyFAyHAyKAzVAyLAyMAyNAzGAyPAzHAyQAySAzUAyTAzHAzSAyVAyXAzVAyYAtLOW BAxDAxFAxHAxKAyVAxLAxMAxNAyGAxPA
yHAxQAxSAyUAxTAyHAySAxVAxXAyVAxYAmSIGN LAEuVmTHAM DIGIT ONEnONE MARK-1w2mVOWEL SIGN AAzYyEyYxExIIyYxOyAzYyY
xUyEzYyUyYxVOWEL SHORTENERdA ABBREVIATION SIGNfCOMMAfDANDAgIGIT EIGHTlFIVEmOURlNINElONElSEVENmIXlTHREEmWO
lZEROgOUBLE COMMAmDANDAfGAP FILLERfINSERTION SIGNfLETTER AnAnInUmBAnHAmCAnHAmDAnDAoHAnHAmEmGAnHAmHAmInImJA
nHAmKAnHAmLAnHAmMAnHAmNAnGAoHAnHAnNAnYAoHAmOmPAnHAmRAnHAmSAnHAnSAmTAnHAnTAoHAmUnUmVEDIC ANUSVARAnOCALIC LvL
uRvRmWAmYAfOMfPLACEHOLDER MARKfSANDHI MARKgIDDHIhGN ANUSVARAlVAGRAHAkCANDRABINDUkFINAL ANUSVARAkJIHVAMULIYA
kNUKTAkUPADHMANIYAkVIRAMAmSARGAfVOWEL SIGN AArIrUqEqIrIqOqUrUqVOCALIC LzLyRzRdLINE LEFTiRIGHTdSPAPERcXT LINE
fPAGEbIGHT WITH STARScNJAbKO COMBINING DOUBLE DOT ABOVEoLONG DESCENDING TONEtHIGH TONEtLOW TONEtRISING TONE
oNASALIZATION MARKoSHORT HIGH TONEuLOW TONEuRISING TONEhMAeDANTAYALANfIGIT EIGHTkFIVElOURkNINEkONEkSEVENlIX
kTHREElWOkZEROfOROME SIGNeEXCLAMATION MARKeHIGH TONE APOSTROPHEeLAJANYALANfETTER AlBAlCHAlDAnGBASINNAlEmElFA
lGBAlHAlIlJAmONA CHAqJAqRAlKAlLAlMAlNmAn WOLOSOmYAo WOLOSOlOmOlPAlRAmRAlSAlTAlUlWAlYAfOW TONE APOSTROPHE
eSYMBOL GBAKURUNENlOO DENNENeTAMAN SIGNbLbNBSPbO BICYCLESeREAK HEREdENTRYi SIGNdMOBILE PHONES
dONE UNDER EIGHTEEN SYMBOLdPEDESTRIANSeIRACYdSMOKING SYMBOLc-BREAK SPACEcMINAL DIGIT SHAPESeSMA SIGN
cN-BREAKING HYPHENePOTABLE WATER SYMBOLdFORKINGcRdDIC MARK SIGNdMAL SUBGROUP OFs OR EQUAL TO
dTH EAST AND SOUTH WEST ARROWmRROWq AND SOUTH EAST ARROWrCROSSING NORTH WEST ARROWz SOUTH EAST ARROW
rWITH HOOKlBLACK ARROWlDOUBLE ARROWlPOINTING BUDuLEAFuVINE LEAFlSANS-SERIF ARROWlTRIANGLE-HEADED ARROW
zD ARROW TO BARlWHITE ARROWgINDIC FRACTION ONE EIGHTHzHALFzQUARTERzSIXTEENTHvTHREE QUARTERSzE SIXTEENTHS
mPLACEHOLDER MARKmQUANTITY MARKpRTER MARKmRUPEE MARKgWEST AND SOUTH EAST ARROWmRROWq AND NORTH EAST ARROW
rCROSSING NORTH EAST ARROWrTO CORNERuLONG BARrWITH HOOKlBLACK ARROWlDOUBLE ARROWlPOINTING BUDuLEAFuVINE LEAF
lSANS-SERIF ARROWlTRIANGLE-HEADED ARROWzD ARROW TO BARlWHITE ARROWfEAST-POINTING AIRPLANEcSEcT A SUBSET OF
iPERSET OFfLMOST EQUAL TOfN ELEMENT OFfSYMPTOTICALLY EQUAL TOeCHECK MARKeEQUAL TOhIVALENT TOeGREATER-THAN
eIDENTICAL TOeLESS-THANeNORMAL SUBGROUP OFw OR EQUAL TOePARALLEL TOeSIGNfQUARE IMAGE OF OR EQUAL TO
lORIGINAL OF OR EQUAL TOeTILDEfRUEdCHED LEFT SEMICIRCLE WITH THREE DOTS
jOWER RIGHT-SHADOWED WHITE RIGHTWARDS ARROWiRIGHT SEMICIRCLE WITH THREE DOTS
iUPPER RIGHT-SHADOWED WHITE RIGHTWARDS ARROWdEe PADhGEeBOOKi WITH DECORATIVE COVERbULdL
cMBER EIGHTEEN FULL STOPiLEVEN FULL STOPhFIFTEEN FULL STOPiOURTEEN FULL STOPhNINETEEN FULL STOP
hSEVENTEEN FULL STOPiIGNjXTEEN FULL STOPhTEN FULL STOPiHIRTEEN FULL STOPiWELVE FULL STOPkNTY FULL STOP
dERO SIGNcSHU CHARACTER-1B170u1u2u3u4u5u6u7u8u9uAuBuCuDuEuFt80u1u2u3u4u5u6u7u8u9uAuBuCuDuEuFt90u1u2u3u4u5u6
u7u8u9uAuBuCuDuEuFtA0u1u2u3u4u5u6u7u8u9uAuBuCuDuEuFtB0u1u2u3u4u5u6u7u8u9uAuBuCuDuEuFtC0u1u2u3u4u5u6u7u8u9uA
uBuCuDuEuFtD0u1u2u3u4u5u6u7u8u9uAuBuCuDuEuFtE0u1u2u3u4u5u6u7u8u9uAuBuCuDuEuFtF0u1u2u3u4u5u6u7u8u9uAuBuCuDuE
uFs200u1u2u3u4u5u6u7u8u9uAuBuCuDuEuFt10u1u2u3u4u5u6u7u8u9uAuBuCuDuEuFt20u1u2u3u4u5u6u7u8u9uAuBuCuDuEuFt30u1
u2u3u4u5u6u7u8u9uAuBuCuDuEuFt40u1u2u3u4u5u6u7u8u9uAuBuCuDuEuFt50u1u2u3u4u5u6u7u8u9uAuBuCuDuEuFt60u1u2u3u4u5
u6u7u8u9uAuBuCuDuEuFt70u1u2u3u4u5u6u7u8u9uAuBuCuDuEuFt80u1u2u3u4u5u6u7u8u9uAuBuCuDuEuFt90u1u2u3u4u5u6u7u8u9
uAuBuCuDuEuFtA0u1u2u3u4u5u6u7u8u9uAuBuCuDuEuFtB0u1u2u3u4u5u6u7u8u9uAuBuCuDuEuFtC0u1u2u3u4u5u6u7u8u9uAuBuCuD
uEuFtD0u1u2u3u4u5u6u7u8u9uAuBuCuDuEuFtE0u1u2u3u4u5u6u7u8u9uAuBuCuDuEuFtF0u1u2u3u4u5u6u7u8u9uAuB
gITERATION MARKcT AND BOLTbYIAKENG PUACHUE HMONG CIRCLED CAxDIGIT EIGHTzGIT FIVEzGIT FOURzGIT NINEzGIT ONE
zGIT SEVENzGIT SIXzGIT THREEzGIT TWOzGIT ZEROxLETTER AzTTER AAzTTER CAzTTER DAzTTER DLAzTTER EzTTER EE
zTTER FAzTTER GAzTTER HAzTTER HAHzTTER IzTTER KAzTTER LAzTTER MAzTTER MLAzTTER NAzTTER NCAzTTER NKAzTTER NPA
zTTER NPLAzTTER NQAzTTER NRAzTTER NTAzTTER NTSAzTTER NTXAzTTER NYAzTTER OzTTER OOzTTER PAzTTER PLAzTTER QA
zTTER RAzTTER RRAzTTER SAzTTER TAzTTER TSAzTTER TXAzTTER UzTTER VAzTTER WzTTER XAzTTER XYAzTTER YAzTTER ZA
yOGOGRAM NYAJxSIGN FOR ANIMALzGN FOR INVERTEBRATEzGN FOR LOCATIONzGN FOR PERSONzGN FOR THINGzGN XW XW
yYLLABLE LENGTHENERxTONE-BzNE-DzNE-GzNE-JzNE-MzNE-SzNE-VaOBJECT REPLACEMENT CHARACTER
cLIQUE ANGLE OPENING DOWNwUPiHYPHENcSERVER EYE SYMBOLbCR AMOUNT OF CHECKeBELT BUCKLEfOW TIE
fRANCH BANK IDENTIFICATIONeCHAIRfUSTOMER ACCOUNT NUMBEReDASHfOUBLE BACKSLASHeFORKeHOOKeINVERTED FORK
cTAGONAL SIGNdOPUSbDENbFFICE BUILDINGbGHAM FEATHER MARKgLETTER AILMnBEITHnCEIRToOLLnDAIRnEABHADHpDHADH
pMHANCHOLLnFEARNnGORTnIFINoODHADHnLUISnMUINnNGEADALoIONnONNoRnPEITHnRUISnSAILoTRAIFnTINNEnUATHoILLEANNoR
gREVERSED FEATHER MARKgSPACE MARKcONEKbHM SIGNbIL DRUMbK HAND SIGNbL CHIKI AHADjDIGIT EIGHTpFIVEqOURpNINE
pONEpSEVENqIXpTHREEqWOpZEROjGAAHLAA TTUDDAAGjLETTER AAJsKsMsWrGrLrNGrTqEDDrNrPrRRqIHrNYrRrSqLAsArErIrOrUqOB
rHrTTrVqUCrDrNNrYjMU TTUDDAGl-GAAHLAA TTUDDAAGjPHAARKAAkUNCTUATION DOUBLE MUCAADvMUCAADjRELAA
cD CHINESE HOOK MARKmITERATION MARKeHUNGARIAN CAPITAL LETTER AzTER AAzTER AKzTER AMBzTER ANDzTER CLOSE E
zTER EzTER EBzTER ECzTER ECHzTER ECSzTER EDzTER EEzTER EFzTER EGzTER EGYzTER EHzTER EJzTER EKzTER ELzTER ELY
zTER EMzTER EMPzTER ENzTER ENCzTER ENTzTER ENT-SHAPED SIGNzTER ENYzTER EPzTER ERzTER ESzTER ESZzTER ET
zTER ETYzTER EVzTER EZzTER EZSzTER IzTER IIzTER NIKOLSBURG OEzTER NIKOLSBURG UEzTER OzTER OEEzTER OO
zTER RUDIMENTA OEzTER RUDIMENTA UEzTER SHORT ERzTER UzTER UNKzTER USzTER UUoNUMBER FIFTYxVEvONEy HUNDRED
zTHOUSANDvTENoSMALL LETTER AzR AAzR AKzR AMBzR ANDzR CLOSE EzR EzR EBzR ECzR ECHzR ECSzR EDzR EEzR EFzR EG
zR EGYzR EHzR EJzR EKzR ELzR ELYzR EMzR EMPzR ENzR ENCzR ENTzR ENT-SHAPED SIGNzR ENYzR EPzR ERzR ESzR ESZ
zR ETzR ETYzR EVzR EZzR EZSzR IzR IIzR NIKOLSBURG OEzR NIKOLSBURG UEzR OzR OEEzR OOzR RUDIMENTA OE
zR RUDIMENTA UEzR SHORT ERzR UzR UNKzR USzR UUeITALIC LETTER AsBEsCHEsDEsEtFtKStLtMtNtRuStSuHuSsHEsItIsKAtE
tHEtUsNORTHERN TSEsOsPEtHEsSHEtOUTHERN TSEsTEtHEsUtUsVEsYEsZElNUMERAL FIFTYvVEtONEtTENeKEY
eNORTH ARABIAN LETTER AINzALEFzBEHzDADzDALzES-1zES-2zES-3zFEHzGEEMzGHAINzHAHzHEHzKAFzKHAHzLAMzMEEMzNOONzQAF
zREHzSADzTAHzTEHzTHALzTHEHzWAWzYEHzZAHzZAINsNUMBER ONEzTENzTWENTYePERMIC LETTER ANsBURsCHERYsDOItZHOIuITAsE
tFsGAIsHAsItAtEsKOKEsLEIsMENOEsNENOEsOtOsPEEIsREIsSHCHOOIuOOItIIsTAItSIUsUsVERtOOIsYAuTtERvIvUtRYtUsZATAtHOI
hSIAN NUMBER HUNDREDtONEtTENuWENTYvOmSIGN AsURAMAZDAAzAA-2zAAHArBAtGAsUUMISHrCArDAtHYAAUSHzH-2sIsUrFArGAsU
rHArIrJAsIrKAsUrLArMAsIsUrNAsUrPArRAsUrSAsHAsSArTAsHAsUrUrVAsIrXAsSHAAYATHIYArYArZAmWORD DIVIDER
iONAL COMPUTEReSOGDIAN FRACTION ONE HALFmLETTER ALEPHvTERNATE AYINuYINtBETHtFINAL ALEPHzBETHzHEzNUN
zNUN WITH VERTICAL TAILzSADHEzSADHE WITH VERTICAL TAILzTAWzTAW WITH VERTICAL TAILtGIMELtHEvTHtKAPHtLAMEDH
tMEMtNUNtPEtRESH-AYIN-DALETHtSADHEvMEKHuHINtTAWtWAWtYODHtZAYINnIGATURE AYIN-DALETHmNUMBER FIVEuOURtONE
w HUNDREDtTENuHIRTYvREEuWENTYvOgUTH ARABIAN LETTER ALEFzAYNzBETHzDALETHzDHADHEzDHALETHzFEzGHAYNzGIMELzHE
zHETHzKAPHzKHETHzLAMEDHzMEMzNUNzQOPHzRESHzSADHEzSAMEKHzSATzSHINzTAWzTETHzTHAWzTHETHzWAWzYODHzZAYN
sNUMBER FIFTYzONEvERIC INDICATOReTURKIC LETTER ORKHON AzABzADzAEBzAEDzAEGzAEKzAELzAENzAERzAESzAETzAEYzAGzAL
zANzAQzARzASzASHzATzAYzBASHzECzELTzEMzENCzENGzENTzENYzEPzESHzEZzIzICzIQzOzOEzOEKzOPzOQzOTsYENISEI Az ABz AD
z AEz AEBz AEGz AEKz AENz AENGz AETz AEYz AGz ALz ANGz AQz ARz ASHz ATz AYz Ez ECz ENCz ENTz ENYz ESHz EZz I
z IQz OEz OEKz OQeUYGHUR COMBINING DOT ABOVEzBELOWvTWO DOTS ABOVEzDOTS BELOWlLETTER ALEPHsBETHsFINAL HETH
sGIMEL-HETHsKAPHsLAMEDHtESHsMEMsNUNsPEsRESHsSADHEuMEKHtHINsTAWsWAWsYODHsZAYINlPUNCTUATION BARxFOUR DOTS
xTWO BARSzO DOTSdER ADULTgMANgWOMANcIVEbM SYMBOLbN WITH EXCLAMATION MARK WITH LEFT RIGHT ARROW ABOVE
cCOMING AUTOMOBILEjBUSjFIRE ENGINEjPOLICE CARjTAXIcE BUTTON MOUSEeDOT LEADERiOVER TWO DOTS PUNCTUATION
d-PIECE SWIMSUITcIONbPEN BOOKhXfCENTRE ASTERISKmBLACK STARmCROSSmTEARDROP-SPOKED ASTERISKfFILE FOLDERgOLDER
fHANDS SIGNfLOCKfMAILBOX WITH LOWERED FLAGsRAISED FLAGfSUBSEThPERSETe-CIRCUIT-OUTPUT H-TYPE SYMBOL
uL-TYPE SYMBOLfOUTLINED RIGHTWARDS ARROWdRATING SYSTEM COMMANDcHIUCHUScPOSITIONcTICAL DISCm ICONeON KEY
bR WITH DOT INSIDEcANGE BOOKhHEARTfUTANcIGINAL OFdYA AI LENGTH MARKhU LENGTH MARKgDIGIT EIGHTmFIVEnOURmNINE
mONEmSEVENnIXmTHREEnWOmZEROgFRACTION ONE EIGHTHtHALFtQUARTERtSIXTEENTHpTHREE QUARTERSvSIXTEENTHSgISSHAR
gLETTER AoAoIoUnBAoHAnCAoHAnDAoDApHAoHAnEnGAoHAnHAnIoInJAoHAnKAoHAnLAoLAnMAnNAoGAoNAoYAnOnPAoHAnRAoHAoRAnSA
oHAoSAnTAoHAoTApHAnUoUnVAoOCALIC LwLvRwRnWAnYAoYAgSIGN ANUSVARAmVAGRAHAlCANDRABINDUlNUKTAlOVERLINElVIRAMA
nSARGAgVOWEL SIGN AAsIsUrErIsIrOrUsUrVOCALIC LzLLzRzRRcNATE LEFT PARENTHESIShRIGHT PARENTHESIScTHODOX CROSS
bSAGE CAPITAL LETTER AwHwIxNvBRAvCHAvDHAvEwHCHAxKAxPAxTAySAwINvGHAvHAwYAvIvKAwHAwYAvLAvMAvNAvOwINvPAvSAwHA
vTAwSAxHAvUvWAvZAwHAgSMALL LETTER AuHuIvNtBRAtCHAtDHAtEuHCHAvKAvPAvTAwSAuINtGHAtHAuYAtItKAuHAuYAtLAtMAtNAtO
uINtPAtSAuHAtTAuSAvHAtUtWAtZAuHAcCcMANYA DIGIT EIGHToFIVEpOURoNINEoONEoSEVENpIXoTHREEpWOoZEROiLETTER AqAqLEF
pBApCAYNpDEELqHApEqEpFApGApHApIpJApKAAFqHApLAANpMIINpNUUNpOqOpQAAFpRApSAqHIINpTApUpWAWpXApYAbTTER
dOMAN SIYAQ ALTERNATE NUMBER EIGHTzUMBER FIVEzUMBER FOURzUMBER FOUR HUNDREDzUMBER NINEzUMBER SEVENzUMBER SIX
zUMBER SIX HUNDREDzUMBER TENzUMBER TEN THOUSANDzUMBER THREEzUMBER TWOzUMBER TWO THOUSANDoFRACTION ONE HALF
zE SIXTHoMARRATANoNUMBER EIGHTzT HUNDREDzT THOUSANDzTYzTY THOUSANDvFIFTYzY THOUSANDxVEz HUNDREDz THOUSAND
wORTYzY THOUSANDxURz HUNDREDz THOUSANDvNINEz HUNDREDz THOUSANDzTYzTY THOUSANDvONEy HUNDREDzTHOUSANDvSEVEN
zN HUNDREDzN THOUSANDzNTYzNTY THOUSANDwIXy HUNDREDzTHOUSANDyTYzY THOUSANDvTENy THOUSANDwHIRTYzTY THOUSAND
xREEzE HUNDREDzE THOUSANDwWENTYzTY THOUSANDxOy HUNDREDzTHOUSANDbUNCE SIGNcTBOX TRAYdLINED BLACK STAR
jGREEK CROSSjLATIN CROSSjWHITE STARbVERHEATED FACEeLAPhPING BLACK SQUARESmWHITE AND BLACK SQUARESsSQUARES
fINEbWLbXbYSTERaPACKAGEcDdDING CHARACTERcGEe FACING UPfWITH CIRCLED TEXTlURLeReSdODA
cHAWH HMONG CLAN SIGN FAJxHAMzWJxKHAByOOyWMxLAUJyISxMUASxPHABxTHOJySABzHEEJzWBxVAJyWJxXYOOJxYAJyEEG
oONSONANT AUxCAUyHAUxHAUyLAUyNAUxLAUxMAUxNAUyCHAUyKAUyLAUyTHAUzSAUxPLHAUxQHAUxRAUxVAUxXAUxYAUnDIGIT EIGHT
tFIVEuOURtNINEtONEtSEVENuIXtTHREEuWOtZEROnMARK CIM HOMwKESxHAVwSOxUAMwTAUMxUBnNUMBER HUNDRED MILLIONSzEDS
uMILLIONSuTEN BILLIONSyTHOUSANDSxSvRILLIONSnSIGN AVsCIM CHEEMxUAM TSHOOJwHAIS LUS NTOG NTOGwNRES TOS
wPUB DAWBwTSOV ROGxXWVzV CHWVsHLItNUBsIB YAMsLOSsMEEJ SUABxTSEEBtUSsNQIGtTUJsTAUtHIRD-STAGE HLItXHEEJ CEEV
sVOS FEEMwLUBwNRUAwSEEVwTHIAByOMxSHAB CEEBsXAUStIABtYEEM FAIByNTXIVyRHOyTOVuOOsZWJ THAJnVOWEL KAABwVvBvIBwV
vUBwVvVvWBwVuEBvEBwVvVuIABwVvBvVuOBvOBwVvVuUABwVvBvVuWBvVcLLASdM BRANCHfDOWN HANDfTREEfUP HANDeS UP TOGETHER
eYRENE LEFT-POINTING FLEURONmTTER ALEPHsYINrBETHrDALETHrFINAL NUNrGIMELrHEtTHrKAPHrLAMEDHrMEMrNUNrPErQOPH
rRESHrSADHEtMEKHsHINrTAWsETHrWAWrYODHrZAYINkNUMBER FIVEsOURrONErTENsHREEsWENTYtOkRIGHT-POINTING FLEURON
cNCAKESdDA FACEcPERCLIPcRACHUTEeGRAPH SEPARATORjOSjUS MARKeLLEL TOjWITH HORIZONTAL STROKEoTILDE OPERATOR
dENTHESIZED DIGIT EIGHTuFIVEvOURuNINEuONEuSEVENvIXuTHREEvWOoHANGUL CHIEUCHzUCH AwIEUCzC AzC UvHIEUHzH A
vIEUNGzG AvKHIEUKHzUKH AwIYEOKzOK AvMIEUMzM AvNIEUNzN AvPHIEUPHzUPH AwIEUPzP AvRIEULzL AvSIOSz AvTHIEUTH
zUTH AwIKEUTzUT AoIDEOGRAPH ALLIANCEyCALLzONGRATULATIONyEARTHzIGHTzNTERPRISEyFESTIVALzINANCIALzIREzIVEzOUR
yHAVEyLABORyMETALzOONyNAMEzINEyONEyREACHzEPRESENTzESOURCEzESTySELFzEVENzIXzOCIETYzPECIALzTOCKzTUDYzUN
zUPERVISEyTENzHREEzWOyWATERzOODoKOREAN CHARACTER O HUzACTER OJEONoLATIN CAPITAL LETTER AzAL LETTER B
zAL LETTER CzAL LETTER DzAL LETTER EzAL LETTER FzAL LETTER GzAL LETTER HzAL LETTER IzAL LETTER JzAL LETTER K
zAL LETTER LzAL LETTER MzAL LETTER NzAL LETTER OzAL LETTER PzAL LETTER QzAL LETTER RzAL LETTER SzAL LETTER T
zAL LETTER UzAL LETTER VzAL LETTER WzAL LETTER XzAL LETTER YzAL LETTER ZuSMALL LETTER Az LETTER Bz LETTER C
z LETTER Dz LETTER Ez LETTER Fz LETTER Gz LETTER Hz LETTER Iz LETTER Jz LETTER Kz LETTER Lz LETTER M
z LETTER Nz LETTER Oz LETTER Pz LETTER Qz LETTER Rz LETTER Sz LETTER Tz LETTER Uz LETTER Vz LETTER W
z LETTER Xz LETTER Yz LETTER ZoNUMBER EIGHTEENwLEVENvFIFTEENwOURTEENvNINETEENvSEVENTEENwIXTEENvTENwHIRTEEN
wWELVEyNTYdROTdT ALTERNATION MARKeIAL DIFFERENTIALiLINE BACKWARDnDOWNnFORWARDnUPhLY-RECYCLED PAPER SYMBOL
eNERSHIP SIGNeY POPPERcSSED SYMBOLfNGER SHIPeIVE-PULL-DOWN-OUTPUT SYMBOLnUP-OUTPUT SYMBOLePORT CONTROL
cU CIN HAU GLOTTAL STOPy FINALzVARIANTmLETTER AtBAtCAuHAtDAtEtFAuINAL KzLzMzNzNGzPzTzWzYtGAtHAtIuAtKAuHAtLA
tMAtNAuGAtOtPAuHAtRAtSAtTAuHAtUuAtVAtZAnOW-FALLING TONEzONE FINALzONE LONGzONE LONG FINALmMID-LEVEL TONE
zE FINALzE LONG FINALmRISING TONEx FINALyLONGzONG FINALmSANDHI GLOTTAL STOPzL STOP FINALtTONEx FINALyLONG
zONG FINALcW PRINTSbDFcIbEACE SYMBOLeHeOCKdNUTSdRcDESTRIANcN OVER STAMPED ENVELOPEdCILdGUINdSIVE FACEdTAGRAM
cOPLE HUGGINGcR MILLE SIGNeSIGNeTEN THOUSAND SIGNdCENT SIGNdFORMING ARTSdMANENT PAPER SIGNdPENDICULAR
n WITH SdSEVERING FACEeON BOWING DEEPLYhCLIMBINGhDOING CARTWHEELhFROWNINGhIN LOTUS POSITIONkSTEAMY ROOM
hRAISING BOTH HANDS IN CELEBRATIONhWITH BALLnLOND HAIRmCROWNmFOLDED HANDSmHEADSCARFmPOUTING FACEgAL COMPUTER
ePECTIVEcSETA SIGNdO SIGNcTRI DISHbHAGS-PA DOUBLE HEAD MARKjLETTER ArLTERNATE YArSPIRATED FAqBAqCAsNDRABINDU
rHAqDArDArZAqErEqFAqGArGAqHAqIqJAqKArHAqLAqMAqNArGArNArYAqOqPArHAqQAqRAqSArHArMALL AqTArHArSAsHArTAsHAqU
qVOICED HAvLESS SHAqWAqXAqYAqZArHAjMARK DOUBLE SHADoSHADjSINGLE HEAD MARKkUBJOINED LETTER RAz WAz YA
lPERFIXED LETTER RAdISTOS DISC SIGN ARROWtBEEwHIVEuOOMERANGvWuULLS LEGtCAPTIVEvRPENTRY PLANEvTuHILDuLUB
uOLUMNvMBxINING OBLIQUE STROKEtDOLIUMvVEtEAGLEtFLUTEtGAUNTLETuRATERtHELMETuIDEuORNtLIDvLYtMANACLESvTTOCK
tOX BACKtPAPYRUSuEDESTRIANuLANE TREEvUMED HEADtRAMuOSETTEtSAWuHIELDwPuLINGuMALL AXEuTRAINERtTATTOOED HEAD
uIARAuUNNYtVINEtWAVY BANDuOMANcILIPPINE DOUBLE PUNCTUATIONlSINGLE PUNCTUATIONcOENICIAN LETTER AINtLFsBET
sDELTsGAMLsHEuTsKAFsLAMDsMEMsNUNsPEsQOFsROSHsSADEtEMKtHINsTAUtETsWAUsYODsZAIlNUMBER ONEv HUNDREDsTENtHREE
tWENTYuOlWORD SEPARATORdLUSbICKeUP TRUCKcEcGd FACEeNOSEcLCROW SIGNdE OF POOdLcNATAdCHED FINGERSfING HAND
dE DECORATIONeAPPLEdWHEEL STARcSCESdTOLcTCHFORKj WITH TEE TOPbLACARDeE OF INTEREST SIGNjWORSHIPdNCK CONSTANT
p OVER TWO PIdYGROUND SLIDEeING CARD ACE OF CLUBSuDIAMONDSuHEARTSuSPADESnBACKoLACK JOKERnEIGHT OF CLUBS
wDIAMONDSwHEARTSwSPADESnFIVE OF CLUBSvDIAMONDSvHEARTSvSPADESoOOLpUR OF CLUBSvDIAMONDSvHEARTSvSPADES
nJACK OF CLUBSvDIAMONDSvHEARTSvSPADESnKING OF CLUBSvDIAMONDSvHEARTSvSPADESoNIGHT OF CLUBSxDIAMONDSxHEARTS
xSPADESnNINE OF CLUBSvDIAMONDSvHEARTSvSPADESnQUEEN OF CLUBSwDIAMONDSwHEARTSwSPADESnRED JOKERnSEVEN OF CLUBS
wDIAMONDSwHEARTSwSPADESoIX OF CLUBSuDIAMONDSuHEARTSuSPADESnTEN OF CLUBSuDIAMONDSuHEARTSuSPADESoHREE OF CLUBS
wDIAMONDSwHEARTSwSPADESoRUMP-1u0u1u2u3u4u5u6u7u8u9t2u0u1t3t4t5t6t7t8t9oWO OF CLUBSuDIAMONDSuHEARTSuSPADES
nWHITE JOKERcDcUdNGERdS SIGNj ABOVE EQUALS SIGNkIN LEFT HALF CIRCLEnRIGHT HALF CIRCLEnTRIANGLE
kWITH BLACK TRIANGLEpCIRCUMFLEX ACCENT ABOVEpDOT BELOWpSMALL CIRCLE ABOVEqUBSCRIPT TWOpTILDE ABOVEvBELOW
e-MINUS SIGNdTOf FORM FIVEmOURlTHREEmWObMbOCKET CALCULATORcLICE CARkS REVOLVING LIGHThOFFICERcODLE
cP DIRECTIONAL FORMATTINGqISOLATEdCORNcRTABLE STEREOcSEIDONdITION INDICATORdTAL HORNhMARKl FACEeBOX
cT OF FOODdABLE WATER SYMBOLeTOdTED PLANTcUCHdLTRY LEGdND SIGNdRING LIQUIDdTING CAT FACEiFACEcWER ON SYMBOL
i-OFF SYMBOLgSLEEP SYMBOLhYMBOLbRAYER BEADScECEDESi ABOVE ALMOST EQUAL TOpEQUALS SIGNpNOT ALMOST EQUAL TO
tEQUAL TOpSINGLE-LINE EQUALS SIGNzE NOT EQUAL TOjBUT NOT EQUIVALENT TOjOR EQUAL TOpIVALENT TOjUNDER RELATION
dGNANT MANjPERSONjWOMANdSCRIPTION TAKEeENTATION FORM FOR VERTICAL COLONzTICAL COMMAzTICAL EM DASH
zTICAL EN DASHzTICAL EXCLAMATION MARKzTICAL HORIZONTAL ELLIPSISzTICAL IDEOGRAPHIC COMMA
zTICAL IDEOGRAPHIC FULL STOPzTICAL LEFT ANGLE BRACKETzTICAL LEFT BLACK LENTICULAR BRACKET
zTICAL LEFT CORNER BRACKETzTICAL LEFT CURLY BRACKETzTICAL LEFT DOUBLE ANGLE BRACKETzTICAL LEFT PARENTHESIS
zTICAL LEFT SQUARE BRACKETzTICAL LEFT TORTOISE SHELL BRACKETzTICAL LEFT WHITE CORNER BRACKET
zTICAL LEFT WHITE LENTICULAR BRACKETzTICAL LOW LINEzTICAL QUESTION MARKzTICAL RIGHT ANGLE BRACKET
zTICAL RIGHT BLACK LENTICULAR BRACKETzTICAL RIGHT CORNER BRACKETzTICAL RIGHT CURLY BRACKET
zTICAL RIGHT DOUBLE ANGLE BRACKETzTICAL RIGHT PARENTHESISzTICAL RIGHT SQUARE BRACKET
zTICAL RIGHT TORTOISE SHELL BRACKETzTICAL RIGHT WHITE CORNER BRACKETzTICAL RIGHT WHITE LENTICULAR BRACKET
zTICAL RIGHT WHITE LENTICULAR BRAKCETzTICAL SEMICOLONzTICAL TWO DOT LEADERzTICAL WAVY LOW LINEdTZEL
dVIOUS PAGEcIMEdNCEgSSeT SCREEN SYMBOLfERh ICONdVACY MESSAGEfTE USE ONEmTWOl-1m2cOBING CANEdHIBITED SIGN
dJECTIVEdPERTY LINEeORTIONkAL TOdSERPINAbSALTER PAHLAVI FOUR DOTS WITH CROSSz WITH DOTqLETTER ALEPHxBETH
xDALETHxGIMELxHEzTHxKAPHxLAMEDHxMEM-QOPHxNUNxPExSADHEzMEKHyHINxTAWxWAW-AYIN-RESHxYODHxZAYINqNUMBER FOURxONE
zE HUNDREDxTENyHREEyWENTYzOqSECTION MARKqTURNED SECTION MARKbU1c2cBLIC ADDRESS LOUDSPEAKERcNCTUATION SPACE
gS ELEVATUS MARKcRPLE HEARTdSEcSHPINcT LITTER IN ITS PLACE SYMBOLaQUADRANT LOWER LEFTpRIGHTjUPPER LEFT
t AND LOWER LEFT AND LOWER RIGHTzOWER RIGHTyUPPER RIGHT AND LOWER LEFTzPPER RIGHT AND LOWER RIGHTpRIGHT
u AND LOWER LEFTzLOWER LEFT AND LOWER RIGHTfUPLE INTEGRAL OPERATORkPRIMEdRTER NOTEdTERNION INTEGRAL OPERATOR
cESTION EXCLAMATION MARKjMARKiED EQUAL TOcINCUNXcOTATION MARK"

end LineScript.Text
